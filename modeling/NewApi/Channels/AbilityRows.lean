import NewApi.Channels.RoutingTables

/-!
# What the statements on abilities do

Each statement is described by the ability found under a group, a model and a
channel afterwards.
-/

namespace NewApi.Channels

open Distinct KeyedTable Channel

def Channel.abilityFor (channel : Channel) (group model : String) :
    Option Ability :=
  if (group, model) ∈ channel.abilityPairs then some (channel.ability group model)
  else none

theorem abilityFor_channelId {channel : Channel} {group model : String} {ability : Ability}
    (found : channel.abilityFor group model = some ability) :
    ability.channelId = channel.id ∧ ability.tag = channel.tag := by
  unfold abilityFor at found
  split at found
  · cases found
    exact ⟨rfl, rfl⟩
  · cases found

theorem find_abilityRows (channel : Channel) (group model : String) (id : Nat) :
    channel.abilityRows.find? (fun row => row.key = (group, model, id)) =
      if channel.id = id then channel.abilityFor group model else none := by
  have keyed : ∀ pair : String × String,
      (channel.ability pair.1 pair.2).key = (group, model, id) ↔
        pair = (group, model) ∧ channel.id = id := by
    intro pair
    simp [Ability.key, ability, Prod.ext_iff, and_assoc]
  unfold abilityRows abilityFor
  by_cases sameId : channel.id = id
  · rw [if_pos sameId]
    by_cases kept : (group, model) ∈ channel.abilityPairs
    · rw [if_pos kept, List.find?_map]
      have located : channel.abilityPairs.find?
          ((fun row => decide (row.key = (group, model, id))) ∘
            fun pair => channel.ability pair.1 pair.2) =
          some (group, model) := by
        cases found : channel.abilityPairs.find?
            ((fun row => decide (row.key = (group, model, id))) ∘
              fun pair => channel.ability pair.1 pair.2) with
        | none =>
          have missed := List.find?_eq_none.mp found _ kept
          simp [Ability.key, ability, sameId] at missed
        | some pair =>
          have passes := List.find?_some found
          have same := (keyed pair).mp (by simpa using passes)
          rw [same.1]
      rw [located]
      rfl
    · rw [if_neg kept]
      apply List.find?_eq_none.mpr
      intro row member passes
      obtain ⟨pair, listed, rfl⟩ := List.mem_map.mp member
      have same := (keyed pair).mp (by simpa using passes)
      exact kept (same.1 ▸ listed)
  · rw [if_neg sameId]
    apply List.find?_eq_none.mpr
    intro row member passes
    obtain ⟨pair, listed, rfl⟩ := List.mem_map.mp member
    have same := (keyed pair).mp (by simpa using passes)
    exact sameId same.2

def RoutingColumns.names (columns : RoutingColumns) : String × String :=
  (columns.models, columns.group)

theorem abilityPairs_eq_of_names {old new : RoutingColumns} (same : new.names = old.names) :
    new.abilityPairs = old.abilityPairs := by
  have models : new.models = old.models := congrArg Prod.fst same
  have group : new.group = old.group := congrArg Prod.snd same
  simp only [RoutingColumns.abilityPairs, models, group]

section

variable (old new : Channel) (columns : new.toRoutingColumns = old.toRoutingColumns)
  (sameId : new.id = old.id)
include old new columns sameId

/-- Only the flag of an ability depends on more than the columns it repeats. -/
theorem ability_eq_of_columns (group model : String) :
    new.ability group model =
      (old.ability group model).withEnabled (new.status = channelStatusEnabled) := by
  simp only [ability, Ability.withEnabled, columns, sameId]

theorem ability_eq_of_status (sameStatus : new.status = old.status) (group model : String) :
    new.ability group model = old.ability group model := by
  simp only [ability, columns, sameId, sameStatus]

end

theorem abilityFor_map {old new : Channel} (same : new.names = old.names)
    {change : Ability → Ability}
    (changed : ∀ group model, change (old.ability group model) = new.ability group model)
    (group model : String) :
    new.abilityFor group model = (old.abilityFor group model).map change := by
  unfold abilityFor
  rw [abilityPairs_eq_of_names same]
  by_cases kept : (group, model) ∈ old.abilityPairs
  · simp only [if_pos kept, Option.map_some, changed]
  · simp only [if_neg kept, Option.map_none]

namespace RoutingTables

def abilityAt (tables : RoutingTables) (group model : String) (id : Nat) :
    Option Ability :=
  tables.abilities.lookup (group, model, id)

variable {tables : RoutingTables}

theorem abilityAt_key {group model : String} {id : Nat} {ability : Ability}
    (found : tables.abilityAt group model id = some ability) :
    ability.group = group ∧ ability.model = model ∧ ability.channelId = id := by
  have keyed := key_of_lookup found
  simpa [Ability.key, Prod.ext_iff] using keyed

theorem abilityAt_addAbilities
    (tables : RoutingTables) (channel : Channel) (group model : String) (id : Nat) :
    (tables.addAbilities channel).abilityAt group model id =
      (tables.abilityAt group model id).or
        (if channel.id = id then channel.abilityFor group model else none) := by
  rw [abilityAt, addAbilities, lookup_insertAllIgnore, find_abilityRows]
  rfl

theorem abilityAt_deleteAbilities
    (tables : RoutingTables) (ids : List Nat) (group model : String) (id : Nat) :
    (tables.deleteAbilities ids).abilityAt group model id =
      if id ∈ ids then none else tables.abilityAt group model id := by
  rw [abilityAt, deleteAbilities, lookup_deleteWhere]
  cases found : tables.abilities.lookup (group, model, id) with
  | none => simp [abilityAt, found]
  | some ability =>
    have named : ability.channelId = id := (abilityAt_key found).2.2
    by_cases listed : id ∈ ids
    · simp [named, listed, Option.filter]
    · simp [abilityAt, found, named, listed, Option.filter]

theorem abilityAt_updateAbilityRows (tables : RoutingTables) {test : Ability → Bool}
    {change : Ability → Ability}
    (sameKey : ∀ row, (change row).key = row.key) (group model : String) (id : Nat) :
    (tables.updateAbilityRows test change sameKey).abilityAt group model id =
      (tables.abilityAt group model id).map fun row =>
        if test row then change row else row := by
  rw [abilityAt, updateAbilityRows, lookup_update]
  rfl

theorem abilityAt_updateAbilityEnabled (tables : RoutingTables) (channelId : Nat) (enabled : Bool)
    (group model : String) (id : Nat) :
    (tables.updateAbilityEnabled channelId enabled).abilityAt group model id =
      (tables.abilityAt group model id).map fun ability =>
        if ability.channelId = channelId then ability.withEnabled enabled
        else ability := by
  unfold updateAbilityEnabled
  rw [abilityAt_updateAbilityRows]
  simp only [decide_eq_true_eq]

theorem abilityAt_updateAbilityStatusByTag (tables : RoutingTables) (tag : String) (status : Bool)
    (group model : String) (id : Nat) :
    (tables.updateAbilityStatusByTag tag status).abilityAt group model id =
      (tables.abilityAt group model id).map fun ability =>
        if ability.tag = some tag then ability.withEnabled status
        else ability := by
  unfold updateAbilityStatusByTag
  rw [abilityAt_updateAbilityRows]
  simp only [decide_eq_true_eq]

theorem abilityAt_updateAbilityByTagIDs
    (tables : RoutingTables) (channelIDs : Option (List Nat)) (tag : String)
    (newTag : Option String) (priority : Option Int) (weight : Option Nat)
    (group model : String) (id : Nat) :
    (tables.updateAbilityByTagIDs channelIDs tag newTag priority weight).abilityAt group model id =
      (tables.abilityAt group model id).map fun ability =>
        if ability.tag = some tag ∧ channelIDs.all (ability.channelId ∈ ·) = true then
          ability.withColumns newTag priority weight
        else ability := by
  unfold updateAbilityByTagIDs
  rw [abilityAt_updateAbilityRows]
  simp only [Bool.and_eq_true, decide_eq_true_eq]

theorem lookup_updateChannels (tables : RoutingTables) (test : Channel → Bool)
    {change : Channel → Channel} (sameId : ∀ row, (change row).id = row.id) (id : Nat) :
    (tables.updateChannels test change sameId).channels.lookup id =
      (tables.channels.lookup id).map fun row =>
        if test row then change row else row := by
  rw [updateChannels, lookup_update]

theorem lookup_saveStatusState (tables : RoutingTables) (snapshot : ChannelSnapshot) (id : Nat) :
    (tables.saveStatusState snapshot).channels.lookup id =
      (tables.channels.lookup id).map fun row =>
        if row.id = snapshot.channel.id then snapshot.statusRow row else row := by
  unfold saveStatusState
  rw [lookup_updateChannels]
  simp only [decide_eq_true_eq]

theorem lock_ok {id : Nat} {channel : Channel}
    (locked : tables.lockChannelForUpdate id = .ok channel) :
    tables.channels.lookup id = some channel ∧ channel.id = id := by
  unfold lockChannelForUpdate at locked
  split at locked
  · cases locked
  cases found : tables.channels.lookup id with
  | none => simp [found] at locked
  | some row =>
    have same : row = channel := by simpa [found] using locked
    rw [← same]
    exact ⟨rfl, key_of_lookup found⟩

theorem mem_channelsByTag (tables : RoutingTables) (tag : String) (channel : Channel) :
    channel ∈ tables.channelsByTag tag ↔
      tables.channels.lookup channel.id = some channel ∧ channel.tag = some tag := by
  rw [channelsByTag, (tables.channels.perm_listing _).mem_iff, List.mem_filter, lookup_eq_some_iff]
  simp

theorem mem_ids_channelsByTag {id : Nat} {row : Channel}
    (found : tables.channels.lookup id = some row) (tag : String) :
    id ∈ (tables.channelsByTag tag).map Channel.id ↔ row.tag = some tag := by
  have rowId : row.id = id := key_of_lookup found
  constructor
  · intro listed
    obtain ⟨channel, member, channelId⟩ := List.mem_map.mp listed
    have described := (tables.mem_channelsByTag tag channel).mp member
    rw [channelId, found] at described
    have same : row = channel := Option.some.inj described.1
    rw [same]
    exact described.2
  · intro tagged
    refine List.mem_map.mpr ⟨row, ?_, rowId⟩
    exact (tables.mem_channelsByTag tag row).mpr ⟨by rw [rowId]; exact found, tagged⟩

end RoutingTables

end NewApi.Channels
