import NewApi.Channels.AbilityMirror

/-!
# Statements that maintain the abilities

The parts of operations on channels that do not parse a list of keys.
-/

namespace NewApi.Channels

open Distinct Transactions KeyedTable RoutingColumns

namespace RoutingTables

variable {tables next : RoutingTables}

theorem saveKeyManagementState_maintains {snapshot : ChannelSnapshot} {includeKey : Bool}
    (saved : tables.saveKeyManagementState snapshot includeKey = .ok next) :
    Maintains [] tables next := by
  unfold saveKeyManagementState at saved
  rw [updateAbilities_eq_of] at saved
  refine update_then_rebuild ?_ ?_ saved
  · intro row _ tested
    simpa using tested
  · exact fun _ _ _ => Or.inl rfl

variable {id : Nat}

theorem persistMultiKeyPollingIndex_maintains {nextIndex : Int}
    (persisted : tables.persistMultiKeyPollingIndex id nextIndex = .ok next) :
    Maintains [] tables next := by
  unfold persistMultiKeyPollingIndex at persisted
  split at persisted
  · rw [← Except.ok.inj persisted]
    refine Maintains.update (fun ability => ability) (lookup_updateChannels tables _ _) ?_ ?_ ?_
    · intro row
      split_ifs <;> rfl
    · intro row _ group model
      split_ifs <;> rfl
    · intro group model other
      rw [Option.map_id']
      rfl
  · cases persisted

theorem saveReindexed_maintains {snapshot : ChannelSnapshot} {cursor : Int}
    (done : (tables.saveKeyManagementState snapshot true).bind
      (fun tables => tables.persistMultiKeyPollingIndex id cursor) = .ok next) :
    Maintains [] tables next := by
  obtain ⟨middle, saved, persisted⟩ := bind_ok_iff.mp done
  exact (saveKeyManagementState_maintains saved).trans
    (persistMultiKeyPollingIndex_maintains persisted)

/-! ## Inserting channels -/

theorem addAbilities_reflects (channels : List Channel) :
    ∀ tables : RoutingTables, (channels.map Channel.id).Nodup →
      (∀ channel ∈ channels,
        tables.channels.lookup channel.id = some channel ∧
          ∀ group model, tables.abilityAt group model channel.id = none) →
      (∀ id, id ∉ channels.map Channel.id → tables.ReflectsAt id) →
      (channels.foldl addAbilities tables).channels = tables.channels ∧
        (channels.foldl addAbilities tables).Reflects := by
  induction channels with
  | nil =>
    intro tables _ _ outside
    exact ⟨rfl, fun id => outside id (by simp)⟩
  | cons channel channels ih =>
    intro tables distinct stored outside
    rw [List.map_cons, List.nodup_cons] at distinct
    have added := tables.abilityAt_addAbilities channel
    have first := stored channel List.mem_cons_self
    refine ih (tables.addAbilities channel) distinct.2 ?_ ?_
    · intro other member
      have described := stored other (List.mem_cons_of_mem _ member)
      refine ⟨described.1, ?_⟩
      intro group model
      have different : channel.id ≠ other.id := fun same =>
        distinct.1 (same ▸ List.mem_map_of_mem member)
      rw [added, if_neg different, described.2]
      rfl
    · intro id absent group model
      rw [added]
      by_cases same : channel.id = id
      · rw [if_pos same, ← same, first.2]
        have rows : (tables.addAbilities channel).channels.lookup channel.id =
            some channel := first.1
        rw [rows]
        rfl
      · have before := outside id (by simp [Ne.symm same, absent])
        rw [if_neg same, Option.or_none]
        exact before group model

theorem create_ok {channel : Channel} (created : tables.create channel = .ok next) :
    next.abilities = tables.abilities ∧ tables.channels.lookup channel.id = none ∧
      ∀ id, next.channels.lookup id =
        if channel.id = id then some channel else tables.channels.lookup id := by
  unfold create at created
  cases outcome : tables.channels.create channel with
  | none => simp [outcome] at created
  | some channels =>
    have result : { tables with channels := channels } = next := by simpa [outcome] using created
    rw [← result]
    exact ⟨rfl, lookup_create outcome⟩

theorem createAll_ok (channels : List Channel) :
    ∀ {tables next : RoutingTables}, channels.foldlM create tables = .ok next →
      next.abilities = tables.abilities ∧ (channels.map Channel.id).Nodup ∧
        (∀ channel ∈ channels,
          tables.channels.lookup channel.id = none ∧
            next.channels.lookup channel.id = some channel) ∧
        ∀ id, id ∉ channels.map Channel.id →
          next.channels.lookup id = tables.channels.lookup id := by
  induction channels with
  | nil =>
    intro tables next done
    have same : tables = next := Except.ok.inj done
    rw [← same]
    simp
  | cons channel channels ih =>
    intro tables next done
    obtain ⟨middle, created, rest⟩ := bind_ok_iff.mp done
    obtain ⟨abilities, fresh, rows⟩ := create_ok created
    obtain ⟨restAbilities, distinct, stored, others⟩ := ih rest
    have absent : channel.id ∉ channels.map Channel.id := by
      intro listed
      obtain ⟨other, member, sameId⟩ := List.mem_map.mp listed
      have missing := (stored other member).1
      rw [rows, sameId, if_pos rfl] at missing
      cases missing
    refine ⟨restAbilities.trans abilities, ?_, ?_, ?_⟩
    · exact List.nodup_cons.mpr ⟨absent, distinct⟩
    · intro other member
      rcases List.mem_cons.mp member with rfl | later
      · refine ⟨fresh, ?_⟩
        rw [others _ absent, rows, if_pos rfl]
      · have described := stored other later
        refine ⟨?_, described.2⟩
        rw [rows] at described
        by_cases same : channel.id = other.id
        · rw [same]  at fresh
          exact fresh
        · simpa [same] using described.1
    · intro id outside
      rw [List.map_cons, List.mem_cons, not_or] at outside
      rw [others id outside.2, rows, if_neg (Ne.symm outside.1)]

theorem insertChunk_maintains {chunk : List Channel} (done : tables.insertChunk chunk = .ok next) :
    Maintains
      (chunk.map fun channel => (withColumnDefaults (normalizeNames channel)).names)
      tables next := by
  obtain ⟨middle, created, added⟩ := map_eq_ok_iff.mp done
  obtain ⟨abilities, distinct, stored, others⟩ := createAll_ok _ created
  have sameAbilities : ∀ group model id,
      middle.abilityAt group model id = tables.abilityAt group model id := by
    intro group model id
    simp only [abilityAt, abilities]
  rw [← added]
  constructor
  · intro before
    refine (addAbilities_reflects _ middle distinct ?_ ?_).2
    · intro channel member
      refine ⟨(stored channel member).2, ?_⟩
      intro group model
      rw [sameAbilities, before channel.id group model, (stored channel member).1]
      rfl
    · intro id outside group model
      rw [sameAbilities, before id group model, others id outside]
  · intro id row found
    have rows : ∀ (channels : List Channel) (tables : RoutingTables),
        (channels.foldl addAbilities tables).channels = tables.channels := by
      intro channels
      induction channels with
      | nil => exact fun _ => rfl
      | cons channel channels ih => exact fun tables => ih _
    rw [rows] at found
    by_cases listed : id ∈ (chunk.map fun channel =>
        withColumnDefaults (normalizeNames channel)).map Channel.id
    · obtain ⟨channel, member, channelId⟩ := List.mem_map.mp listed
      have located := (stored channel member).2
      rw [channelId, found] at located
      rw [Option.some.inj located]
      obtain ⟨given, givenMember, rfl⟩ := List.mem_map.mp member
      exact Or.inr (List.mem_map_of_mem givenMember)
    · rw [others id listed] at found
      exact Or.inl ⟨row, found, rfl⟩

theorem insert_maintains {channel : Channel} (done : tables.insert channel = .ok next) :
    Maintains [(withColumnDefaults (normalizeNames channel)).names] tables next := by
  have asChunk : tables.insertChunk [channel] = .ok next := by
    obtain ⟨middle, created, added⟩ := map_eq_ok_iff.mp done
    refine map_eq_ok_iff.mpr ⟨middle, ?_, added⟩
    simp [List.foldlM, created]
  exact insertChunk_maintains asChunk

theorem insertChunks_maintains (chunks : List (List Channel)) :
    ∀ {tables next : RoutingTables}, chunks.foldlM insertChunk tables = .ok next →
      Maintains
        (chunks.flatMap fun chunk => chunk.map fun channel =>
          (withColumnDefaults (normalizeNames channel)).names)
        tables next := by
  induction chunks with
  | nil =>
    intro tables next done
    have same : tables = next := Except.ok.inj done
    rw [← same]
    exact Maintains.refl tables
  | cons chunk chunks ih =>
    intro tables next done
    obtain ⟨middle, first, rest⟩ := bind_ok_iff.mp done
    exact (insertChunk_maintains first).trans (ih rest)

theorem delete_then_deleteAbilities {channels : KeyedTable Channel.id} {ids : List Nat}
    (rows : ∀ id, channels.lookup id = if id ∈ ids then none else tables.channels.lookup id) :
    Maintains [] tables (deleteAbilities { tables with channels := channels } ids) where
  reflects := by
    intro before id group model
    have found : (deleteAbilities { tables with channels := channels } ids).channels.lookup id =
        if id ∈ ids then none else tables.channels.lookup id := rows id
    rw [abilityAt_deleteAbilities, found]
    by_cases listed : id ∈ ids
    · simp [listed]
    · rw [if_neg listed, if_neg listed]
      exact before id group model
  names := by
    intro id row found
    have located : (if id ∈ ids then none else tables.channels.lookup id) =
        some row := (rows id).symm.trans found
    by_cases listed : id ∈ ids
    · rw [if_pos listed] at located
      cases located
    · rw [if_neg listed] at located
      exact Or.inl ⟨row, located, rfl⟩

theorem delete_maintains (done : tables.delete id = .ok next) : Maintains [] tables next := by
  unfold delete at done
  split at done
  · cases done
  rw [← Except.ok.inj done]
  apply delete_then_deleteAbilities
  intro other
  rw [lookup_delete]
  simp

theorem deleteChunk_maintains (tables : RoutingTables) (chunk : List Nat) :
    Maintains [] tables (tables.deleteChunk chunk) := by
  apply delete_then_deleteAbilities
  intro id
  rw [lookup_deleteWhere]
  cases found : tables.channels.lookup id with
  | none => simp
  | some row =>
    have rowId : row.id = id := key_of_lookup found
    by_cases listed : id ∈ chunk
    · simp [Option.filter, rowId, listed]
    · simp [Option.filter, rowId, listed]

theorem deleteChunks_maintains (chunks : List (List Nat)) :
    ∀ tables : RoutingTables, Maintains [] tables (chunks.foldl deleteChunk tables) := by
  induction chunks with
  | nil => exact Maintains.refl
  | cons chunk chunks ih =>
    intro tables
    exact (deleteChunk_maintains tables chunk).trans (ih _)

theorem fixAbility_maintains (tables : RoutingTables) : Maintains [] tables tables.fixAbility := by
  have rebuilt := addAbilities_reflects tables.channels.rows
    { tables with abilities := KeyedTable.empty } tables.channels.unique
    (by
      intro channel member
      refine ⟨lookup_eq_some_iff.mpr ⟨member, rfl⟩, ?_⟩
      exact fun _ _ => rfl)
    (by
      intro id absent group model
      have missing : tables.channels.lookup id = none := lookup_eq_none_iff.mpr absent
      rw [missing]
      rfl)
  constructor
  · exact fun _ => rebuilt.2
  · intro id row found
    have located : tables.channels.lookup id = some row := by
      rw [← found]
      exact congrArg (fun channels => lookup channels id) rebuilt.1.symm
    exact Or.inl ⟨row, located, rfl⟩

/-! ## Tags -/

theorem batchSetChannelTag_maintains {ids : List Nat} {tag : Option String}
    (done : tables.batchSetChannelTag ids tag = .ok next) :
    Maintains [] tables next := by
  refine update_then_rebuild ?_ ?_ done
  · intro row located tested
    refine List.mem_map_of_mem (List.mem_filter.mpr ⟨?_, tested⟩)
    exact (lookup_eq_some_iff.mp located).1
  · exact fun _ _ _ => Or.inl rfl

theorem saveTagEnabled (now : Int) (channels : List Channel) :
    ∀ tables : RoutingTables,
      let next := channels.foldl
        (fun tables channel => tables.saveStatusState (tagEnabled channel now))
        tables
      next.abilities = tables.abilities ∧
        ∀ id, (tables.channels.lookup id = none →
            next.channels.lookup id = none) ∧
          ∀ row, tables.channels.lookup id = some row →
            ∃ new, next.channels.lookup id = some new ∧
              new.toRoutingColumns = row.toRoutingColumns ∧ new.id = row.id ∧
              new.status =
                if id ∈ channels.map Channel.id then channelStatusEnabled
                else row.status := by
  induction channels with
  | nil =>
    intro tables
    refine ⟨rfl, fun id => ⟨fun absent => absent, ?_⟩⟩
    intro row found
    exact ⟨row, found, rfl, rfl, by simp⟩
  | cons channel channels ih =>
    intro tables next
    obtain ⟨abilities, described⟩ := ih (tables.saveStatusState (tagEnabled channel now))
    have savedId : (tagEnabled channel now).channel.id = channel.id := by
      unfold tagEnabled
      split <;> rfl
    have savedStatus : (tagEnabled channel now).channel.status = channelStatusEnabled := by
      unfold tagEnabled
      split <;> rfl
    refine ⟨abilities, fun id => ?_⟩
    have rows := lookup_saveStatusState tables (tagEnabled channel now) id
    constructor
    · intro absent
      apply (described id).1
      rw [rows, absent]
      rfl
    · intro row found
      rw [found, Option.map_some, savedId] at rows
      have rowId : row.id = id := key_of_lookup found
      obtain ⟨new, located, columns, newId, status⟩ := (described id).2 _ rows
      refine ⟨new, located, ?_, ?_, ?_⟩
      · rw [columns]
        split <;> rfl
      · rw [newId]
        split <;> rfl
      · rw [status, rowId]
        by_cases same : id = channel.id
        · simp [same, ChannelSnapshot.statusRow, savedStatus]
        · simp [same]

theorem enableChannelByTag_maintains (tables : RoutingTables) (tag : String) (now : Int) :
    Maintains [] tables (tables.enableChannelByTag tag now) := by
  obtain ⟨abilities, described⟩ := saveTagEnabled now (tables.channelsByTag tag) tables
  refine Maintains.follow
    (fun ability => if ability.tag = some tag then ability.withEnabled true else ability)
    (fun id => (described id).1) ?_ ?_
  · intro id row found
    obtain ⟨new, located, columns, newId, status⟩ := (described id).2 row found
    refine ⟨new, located, congrArg names columns, ?_⟩
    intro group model
    have rowTag : (row.ability group model).tag = row.tag := rfl
    have listed := mem_ids_channelsByTag found tag
    rw [rowTag]
    by_cases tagged : row.tag = some tag
    · rw [if_pos (listed.mpr tagged)] at status
      rw [if_pos tagged, ability_eq_of_columns row new columns newId, status]
      rfl
    · rw [if_neg (fun member => tagged (listed.mp member))] at status
      rw [if_neg tagged]
      exact (ability_eq_of_status row new columns newId status group model).symm
  · intro group model id
    refine (abilityAt_updateAbilityStatusByTag _ tag true group model id).trans ?_
    simp only [abilityAt, abilities]

theorem ability_apply (edit : TagEdit) (row : Channel) (group model : String) :
    (edit.apply row).ability group model =
      (row.ability group model).withColumns edit.newTag edit.priority edit.weight := by
  have priority : some ((edit.priority <|> row.priority).getD 0) =
      (edit.priority <|> some (row.priority.getD 0)) := by
    cases edit.priority <;> rfl
  have weight : (edit.weight <|> row.weight).getD 0 = edit.weight.getD (row.weight.getD 0) := by
    cases edit.weight <;> rfl
  simp only [Channel.ability, Ability.withColumns, TagEdit.apply,
    getPriority, getWeight, priority, weight]
  rfl

variable {edit : TagEdit} {tag : String}

theorem withColumns_of_isEmpty (empty : edit.isEmpty tag = true)
    {ability : Ability} (tagged : ability.tag = some tag) :
    ability.withColumns edit.newTag edit.priority edit.weight = ability := by
  simp only [TagEdit.isEmpty, Bool.and_eq_true, Option.isNone_iff_eq_none] at empty
  obtain ⟨⟨⟨⟨⟨newTag, _⟩, _⟩, priority⟩, weight⟩, _⟩ := empty
  have sameTag : (edit.newTag <|> ability.tag) = ability.tag := by
    cases named : edit.newTag with
    | none => rfl
    | some other =>
      have same : other = tag := by simpa [named] using newTag
      rw [same, tagged]
      rfl
  simp only [Ability.withColumns, sameTag, priority, weight]
  rfl

theorem editNothing_maintains (tables : RoutingTables) (empty : edit.isEmpty tag = true) :
    Maintains [] tables
      (tables.updateAbilityByTagIDs none tag edit.newTag edit.priority edit.weight) := by
  have rows : ∀ id, tables.channels.lookup id = (tables.channels.lookup id).map fun row => row :=
    fun _ => Option.map_id'.symm
  refine Maintains.update _ rows (fun _ => rfl) ?_
    (abilityAt_updateAbilityByTagIDs tables none tag edit.newTag edit.priority edit.weight)
  intro row _ group model
  by_cases tagged : (row.ability group model).tag = some tag
  · rw [if_pos ⟨tagged, rfl⟩]
    exact withColumns_of_isEmpty empty tagged
  · rw [if_neg (fun both => tagged both.1)]

theorem editInPlace_maintains (tables : RoutingTables) (tag : String)
    (sameNames : edit.models = none ∧ edit.group = none) :
    let ids := (tables.channelsByTag tag).map Channel.id
    Maintains [] tables
      ((tables.updateChannels (fun row => row.id ∈ ids) edit.apply
        edit.id_apply).updateAbilityByTagIDs (some ids) tag edit.newTag
          edit.priority edit.weight) := by
  intro ids
  refine Maintains.update _ (lookup_updateChannels tables _ edit.id_apply) ?_ ?_
    (abilityAt_updateAbilityByTagIDs
      (tables.updateChannels _ edit.apply edit.id_apply) (some ids) tag
      edit.newTag edit.priority edit.weight)
  · intro row
    split
    · simp only [names, TagEdit.apply, sameNames.1, sameNames.2]
      rfl
    · rfl
  · intro row located group model
    have listed : row.id ∈ ids ↔ row.tag = some tag := mem_ids_channelsByTag located tag
    by_cases tagged : row.tag = some tag
    · have member : decide (row.id ∈ ids) = true := decide_eq_true (listed.mpr tagged)
      rw [if_pos ⟨tagged, member⟩, if_pos member]
      exact (ability_apply edit row group model).symm
    · have outside : ¬ decide (row.id ∈ ids) = true := fun member =>
        tagged (listed.mp (of_decide_eq_true member))
      rw [if_neg (fun both => tagged both.1), if_neg outside]

theorem editChannelByTag_maintains (done : tables.editChannelByTag tag edit = .ok next) :
    Maintains ((tables.channelsByTag tag).map fun row => (edit.apply row).names) tables next := by
  unfold editChannelByTag at done
  by_cases empty : edit.isEmpty tag = true
  · rw [if_pos empty] at done
    rw [← Except.ok.inj done]
    exact (editNothing_maintains tables empty).weaken
  · rw [if_neg empty] at done
    by_cases noRows : (tables.channelsByTag tag).map Channel.id = []
    · rw [if_pos noRows] at done
      rw [← Except.ok.inj done]
      exact (Maintains.refl tables).weaken
    · rw [if_neg noRows] at done
      by_cases sameNames : (edit.models.isNone && edit.group.isNone) = true
      · rw [if_pos sameNames] at done
        rw [← Except.ok.inj done]
        rw [Bool.and_eq_true, Option.isNone_iff_eq_none, Option.isNone_iff_eq_none] at sameNames
        exact (editInPlace_maintains tables tag sameNames).weaken
      · rw [if_neg sameNames] at done
        refine update_then_rebuild ?_ ?_ done
        · intro row _ tested
          simpa using tested
        · intro row located tested
          right
          have member : row.id ∈ (tables.channelsByTag tag).map Channel.id := by simpa using tested
          have tagged := (mem_ids_channelsByTag located tag).mp member
          exact List.mem_map_of_mem ((tables.mem_channelsByTag tag row).mpr ⟨located, tagged⟩)

end RoutingTables

end NewApi.Channels
