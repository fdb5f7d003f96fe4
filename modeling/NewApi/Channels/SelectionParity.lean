import NewApi.Channels.AbilityProduct
import NewApi.Channels.FairShare

/-!
# The cache and the database choose alike

The cache finds its candidates through an index built from the channels, the
database through the abilities.  Where the abilities mirror the channels both
find the same ones.
-/

namespace NewApi.Channels

open GoStrings Draws Distinct NewApi.Pricing RoutingState RoutedChannel RoutingTables ChannelCache
  PickRequest
  ChannelIndex

def RoutedChannel.serves (channel : RoutedChannel) (group model : String) :
    Bool :=
  channel.status = channelStatusEnabled && group ∈ channel.getGroups && model ∈ channel.getModels

def RoutedChannel.acceptsPath (channel : RoutedChannel) (requestPath model : String) : Bool :=
  requestPath = "" || channel.routes.type ≠ channelTypeAdvancedCustom ||
    channel.routes.advancedCustom.any (·.supportsPathForModel requestPath model)

def PickRequest.accepts (request : PickRequest) (queryModel : String) (channel : RoutedChannel) :
    Bool :=
  channel.serves request.group queryModel &&
    channel.acceptsPath request.requestPath request.model &&
    request.channelFilter.all (· channel) &&
    (channel.id : Int) ∉ request.excludeChannelIds

def RoutingState.acceptable (state : RoutingState) (request : PickRequest) :
    List RoutedChannel :=
  let exact := state.channels.filter (request.accepts request.model)
  let normalizedModel := formatMatchingModelName request.model
  if exact = [] ∧ normalizedModel ≠ "" ∧ normalizedModel ≠ request.model then
    state.channels.filter (request.accepts normalizedModel)
  else exact

theorem splitCommaSeparated_nodup (value : String) : (splitCommaSeparated value).Nodup := by
  unfold splitCommaSeparated normalizeNameList
  split
  · exact List.nodup_nil
  · have distinct := nodup_map_distinctBy id
      ((((value.toList.splitOn ',').map String.ofList).map trimSpace).filter (· ≠ "")) []
    rwa [List.map_id] at distinct

theorem splitCommaSeparated_trimmed (value : String) :
    ∀ name ∈ splitCommaSeparated value, trimSpace name = name := by
  intro name listed
  unfold splitCommaSeparated normalizeNameList at listed
  split at listed
  · cases listed
  have member := (distinctBy_sublist id _ []).subset listed
  obtain ⟨part, _, rfl⟩ := List.mem_map.mp (List.mem_of_mem_filter member)
  exact trimSpace_trimSpace part

theorem sqlTrim_eq_self {name : String} (trimmed : trimSpace name = name) :
    sqlTrim name = name := by
  have kept := trimFunc_of_trimSpace trimmed
  have noSpace : ∀ char : Char, isSpace char = false → decide (char = ' ') = false := by
    intro char printed
    apply decide_eq_false
    intro same
    rw [same] at printed
    exact absurd printed (by decide)
  unfold sqlTrim
  rw [trimFunc_eq_self, String.ofList_toList]
  · intro char first
    rw [← kept] at first
    exact noSpace char (head_trimFunc isSpace name.toList char first)
  · intro char last
    rw [← kept] at last
    exact noSpace char (getLast_trimFunc isSpace name.toList char last)

namespace RoutingState

theorem find_id {state : RoutingState} {channel : RoutedChannel}
    (loaded : channel ∈ state.channels) :
    state.find channel.id = some channel := by
  obtain ⟨row, stored, rfl⟩ := List.mem_map.mp loaded
  have located : state.tables.channels.lookup row.id = some row :=
    KeyedTable.lookup_eq_some_iff.mpr ⟨stored, rfl⟩
  exact (congrArg (Option.map state.load) located).trans rfl

theorem nodup_channels (state : RoutingState) : (state.channels.map (·.id)).Nodup := by
  unfold channels
  rw [List.map_map]
  exact state.tables.channels.unique

end RoutingState

theorem append_models (group : String) (id : Nat) (otherGroup otherModel : String)
    (models : List String) :
    ∀ index : ChannelIndex,
      models.foldl (fun index model => index.append group model id) index otherGroup otherModel =
        index otherGroup otherModel ++
          if otherGroup = group then List.replicate (models.count otherModel) id
          else [] := by
  induction models with
  | nil => simp
  | cons model models ih =>
    intro index
    rw [List.foldl_cons, ih]
    unfold append
    by_cases sameGroup : otherGroup = group
    · by_cases sameModel : otherModel = model
      · simp [sameGroup, sameModel, List.replicate_succ]
      · have different : model ≠ otherModel := Ne.symm sameModel
        simp [sameGroup, sameModel, List.count_cons_of_ne different]
    · simp [sameGroup]

theorem append_groups (id : Nat) (models : List String) (otherGroup otherModel : String)
    (groups : List String) :
    ∀ index : ChannelIndex,
      groups.foldl
          (fun index group => models.foldl (fun index model => index.append group model id) index)
          index otherGroup otherModel =
        index otherGroup otherModel ++
          List.replicate (groups.count otherGroup * models.count otherModel) id := by
  induction groups with
  | nil => simp
  | cons group groups ih =>
    intro index
    rw [List.foldl_cons, ih, append_models, List.append_assoc]
    by_cases sameGroup : otherGroup = group
    · rw [if_pos sameGroup, sameGroup, List.count_cons_self,
        ← List.replicate_add, Nat.add_mul, Nat.one_mul, Nat.add_comm]
    · have different : group ≠ otherGroup := Ne.symm sameGroup
      rw [if_neg sameGroup, List.count_cons_of_ne different, List.nil_append]

theorem add_apply (index : ChannelIndex) (channel : RoutedChannel) (group model : String) :
    index.add channel group model = index group model ++
        if channel.serves group model then [channel.id] else [] := by
  unfold add serves
  by_cases enabled : channel.status = channelStatusEnabled
  · have groups : channel.getGroups.count group =
        if group ∈ channel.getGroups then 1 else 0 :=
      (splitCommaSeparated_nodup channel.group).count
    have models : channel.getModels.count model = if model ∈ channel.getModels then 1 else 0 :=
      (splitCommaSeparated_nodup channel.models).count
    rw [if_neg (not_not.mpr enabled), append_groups, groups, models]
    by_cases inGroup : group ∈ channel.getGroups
    · by_cases hasModel : model ∈ channel.getModels
      · simp [enabled, inGroup, hasModel]
      · simp [inGroup, hasModel]
    · simp [inGroup]
  · simp [enabled]

theorem foldl_add_apply (channels : List RoutedChannel) (group model : String) :
    ∀ index : ChannelIndex,
      channels.foldl ChannelIndex.add index group model =
        index group model ++ (channels.filter (·.serves group model)).map (·.id) := by
  induction channels with
  | nil => simp
  | cons channel channels ih =>
    intro index
    rw [List.foldl_cons, ih, add_apply, List.append_assoc]
    by_cases serves : channel.serves group model = true
    · simp [serves]
    · simp [serves]

/-! ## The same candidates -/

variable {channels : List RoutedChannel}

theorem filter_perm_map {β : Type} {stands : RoutedChannel → β} {items : List β}
    (same : items.Perm (channels.map stands)) {passes : β → Bool} {test : RoutedChannel → Bool}
    (agree : ∀ channel ∈ channels, passes (stands channel) = test channel) :
    (items.filter passes).Perm ((channels.filter test).map stands) := by
  have filtered : (channels.map stands).filter passes = (channels.filter test).map stands := by
    rw [List.filter_map]
    congr 1
    exact List.filter_congr agree
  rw [← filtered]
  exact same.filter passes

theorem filter_accepts (request : PickRequest) (queryModel : String)
    (channels : List RoutedChannel) :
    (((channels.filter (·.serves request.group queryModel)).filter
        (·.acceptsPath request.requestPath request.model)).filter
        fun channel => request.channelFilter.all (· channel)).filter
          (fun channel => (channel.id : Int) ∉ request.excludeChannelIds) =
      channels.filter (request.accepts queryModel) := by
  rw [List.filter_filter, List.filter_filter, List.filter_filter]
  apply List.filter_congr
  intro channel _
  unfold accepts
  ac_rfl

section Candidates

variable {state : RoutingState} {channels : List RoutedChannel}
  (loaded : ∀ channel ∈ channels, channel ∈ state.channels)

include loaded

theorem cache_filterPath_perm [HostSort] {ids : List Nat} (same : ids.Perm (channels.map (·.id)))
    (requestPath model : String) :
    (state.initChannelCache.filterChannelsByRequestPathAndModel ids requestPath model).Perm
      ((channels.filter (·.acceptsPath requestPath model)).map (·.id)) := by
  unfold filterChannelsByRequestPathAndModel
  by_cases noPath : requestPath = ""
  · rw [if_pos noPath, List.filter_eq_self.mpr]
    · exact same
    · intro channel _
      simp [acceptsPath, noPath]
  · rw [if_neg noPath]
    apply filter_perm_map same
    intro channel member
    have found := find_id (loaded channel member)
    simp only [initChannelCache, found, Option.bind_some,
      acceptsPath, noPath, decide_false, Bool.false_or]
    by_cases custom : channel.routes.type = channelTypeAdvancedCustom
    · simp [custom]
    · simp [custom]

theorem cache_filterPredicate_perm [HostSort]
    {ids : List Nat} (same : ids.Perm (channels.map (·.id)))
    (channelFilter : Option (RoutedChannel → Bool)) :
    (state.initChannelCache.filterChannelsByPredicate ids channelFilter).Perm
      ((channels.filter fun channel => channelFilter.all (· channel)).map (·.id)) := by
  unfold filterChannelsByPredicate
  cases channelFilter with
  | none => simpa using same
  | some passes =>
    apply filter_perm_map same
    intro channel member
    have found := find_id (loaded channel member)
    simp [initChannelCache, found]

section

variable {group queryModel : String} {abilities : List Ability}
  (same : abilities.Perm (channels.map fun channel => channel.ability group queryModel))
include same

theorem database_filterPath_perm (requestPath model : String) :
    (state.filterAbilitiesByRequestPathAndModel abilities requestPath model).Perm
      ((channels.filter (·.acceptsPath requestPath model)).map fun channel =>
        channel.ability group queryModel) := by
  unfold filterAbilitiesByRequestPathAndModel
  by_cases noPath : requestPath = ""
  · rw [if_pos noPath, List.filter_eq_self.mpr]
    · exact same
    · intro channel _
      simp [acceptsPath, noPath]
  · rw [if_neg noPath]
    apply filter_perm_map same
    intro channel member
    have found : state.find (channel.ability group queryModel).channelId = some channel :=
      find_id (loaded channel member)
    rw [found]
    simp only [acceptsPath, noPath, decide_false, Bool.false_or, Option.filter_some]
    by_cases custom : channel.routes.type = channelTypeAdvancedCustom
    · simp [custom]
    · simp [custom]

theorem database_filterPredicate_perm (channelFilter : RoutedChannel → Bool) :
    (state.filterAbilitiesByChannelPredicate abilities channelFilter).Perm
      ((channels.filter channelFilter).map fun channel =>
        channel.ability group queryModel) := by
  apply filter_perm_map same
  intro channel member
  have found : state.find (channel.ability group queryModel).channelId = some channel :=
    find_id (loaded channel member)
  rw [found]
  rfl

end

end Candidates

section

variable {β : Type} {stands : RoutedChannel → β} {items : List β}
  (same : items.Perm (channels.map stands))
include same

theorem exists_loaded :
    ∃ loaded : List RoutedChannel, loaded.Perm channels ∧ items = loaded.map stands := by
  have split : Relation.Comp (fun items loaded => items = List.map stands loaded)
      List.Perm items channels := by
    rw [List.eq_map_comp_perm stands]
    exact same
  obtain ⟨loaded, equal, order⟩ := split
  exact ⟨loaded, order, equal⟩

theorem eq_nil_iff_of_perm_map :
    items = [] ↔ channels = [] := by
  rw [← List.length_eq_zero_iff, same.length_eq, List.length_map, List.length_eq_zero_iff]

end

section

variable {state : RoutingState} (mirrors : state.tables.Mirrors) (request : PickRequest)
  (queryModel : String)
include mirrors request queryModel

theorem mem_selected (ability : Ability) :
    (ability ∈ state.tables.abilities.rows ∧
      (sqlTrim ability.group = request.group &&
        sqlTrim ability.model = queryModel && ability.enabled &&
        (ability.channelId : Int) ∉ request.excludeChannelIds) = true) ↔
      ability ∈ (state.channels.filter fun channel =>
        channel.serves request.group queryModel &&
          (channel.id : Int) ∉ request.excludeChannelIds).map
            fun channel => channel.ability request.group queryModel := by
  rw [mirrors ability, List.mem_map]
  simp only [Bool.and_eq_true, decide_eq_true_eq, List.mem_filter, serves]
  constructor
  · rintro ⟨⟨row, stored, group, inGroup, model, hasModel, rfl⟩, ⟨⟨sameGroup,
      sameModel⟩, enabled⟩, included⟩
    have groupName : group = request.group :=
      (sqlTrim_eq_self (splitCommaSeparated_trimmed _ _ inGroup)).symm.trans sameGroup
    have modelName : model = queryModel :=
      (sqlTrim_eq_self (splitCommaSeparated_trimmed _ _ hasModel)).symm.trans sameModel
    subst groupName modelName
    exact ⟨state.load row, ⟨List.mem_map.mpr ⟨row, stored, rfl⟩,
      ⟨⟨of_decide_eq_true enabled, inGroup⟩, hasModel⟩, included⟩, rfl⟩
  · rintro ⟨channel, ⟨loaded, ⟨⟨enabled, inGroup⟩, hasModel⟩, included⟩, rfl⟩
    obtain ⟨row, stored, rfl⟩ := List.mem_map.mp loaded
    exact ⟨⟨row, stored, request.group, inGroup, queryModel, hasModel, rfl⟩,
      ⟨⟨sqlTrim_eq_self (splitCommaSeparated_trimmed _ _ inGroup),
        sqlTrim_eq_self (splitCommaSeparated_trimmed _ _ hasModel)⟩,
        decide_eq_true enabled⟩, included⟩

theorem selected_perm :
    (state.tables.abilities.rows.filter fun ability =>
      sqlTrim ability.group = request.group &&
        sqlTrim ability.model = queryModel && ability.enabled &&
        (ability.channelId : Int) ∉ request.excludeChannelIds).Perm
      ((state.channels.filter fun channel =>
        channel.serves request.group queryModel &&
          (channel.id : Int) ∉ request.excludeChannelIds).map
            fun channel => channel.ability request.group queryModel) := by
  rw [List.perm_ext_iff_of_nodup]
  · intro ability
    rw [List.mem_filter]
    exact mem_selected mirrors request queryModel ability
  · exact state.tables.abilities.unique.of_map.filter _
  · apply List.Nodup.of_map Ability.channelId
    rw [List.map_map]
    exact state.nodup_channels.sublist (List.filter_sublist.map _)

end

theorem acceptable_loaded (state : RoutingState) (request : PickRequest) (channel : RoutedChannel)
    (member : channel ∈ state.acceptable request) :
    channel ∈ state.channels := by
  unfold acceptable at member
  dsimp only at member
  split at member <;> exact List.mem_of_mem_filter member

section Matching

variable [HostSort] (state : RoutingState) (request : PickRequest) (queryModel : String)

theorem cache_candidates_perm :
    (state.initChannelCache.candidates request queryModel).Perm
      ((state.channels.filter (request.accepts queryModel)).map (·.id)) := by
  have served : (state.initChannelCache.group2model2channels request.group
      queryModel).Perm
        ((state.channels.filter (·.serves request.group queryModel)).map (·.id)) := by
    have indexed := foldl_add_apply state.channels request.group queryModel fun _ _ => []
    rw [List.nil_append] at indexed
    rw [← indexed]
    exact HostSort.perm _ _
  have onPath := cache_filterPath_perm
    (fun channel => List.mem_of_mem_filter) served request.requestPath
    request.model
  have passing := cache_filterPredicate_perm
    (fun channel member => List.mem_of_mem_filter (List.mem_of_mem_filter member))
    onPath request.channelFilter
  rw [← filter_accepts]
  exact filter_perm_map passing fun _ _ => rfl

theorem database_candidates_perm (mirrors : state.tables.Mirrors) :
    (state.findPathFilteredAbilities request queryModel).Perm
      ((state.channels.filter (request.accepts queryModel)).map
        fun channel => channel.ability request.group queryModel) := by
  have sorted :=
    (HostSort.perm (fun left right : Ability => left.weight > right.weight)
      _).trans (selected_perm mirrors request queryModel)
  have onPath := database_filterPath_perm
    (fun channel => List.mem_of_mem_filter) sorted request.requestPath
    request.model
  have whole : ((state.channels.filter fun channel =>
        channel.serves request.group queryModel &&
          (channel.id : Int) ∉ request.excludeChannelIds).filter
        (·.acceptsPath request.requestPath request.model)).filter
          (fun channel => request.channelFilter.all (· channel)) =
      state.channels.filter (request.accepts queryModel) := by
    rw [List.filter_filter, List.filter_filter]
    apply List.filter_congr
    intro channel _
    unfold accepts
    ac_rfl
  rw [← whole]
  unfold findPathFilteredAbilities
  cases channelFilter : request.channelFilter with
  | none => simpa using onPath
  | some passes =>
    exact database_filterPredicate_perm
      (fun channel member => List.mem_of_mem_filter (List.mem_of_mem_filter member))
      onPath passes

theorem cache_matching : ∃ loaded : List RoutedChannel, loaded.Perm (state.acceptable request) ∧
      state.initChannelCache.matchingChannels request = loaded.map (·.id) := by
  apply exists_loaded
  have named := cache_candidates_perm state request request.model
  have normalized := cache_candidates_perm state request (formatMatchingModelName request.model)
  have noneNamed := eq_nil_iff_of_perm_map named
  unfold matchingChannels acceptable
  by_cases fallback : state.channels.filter (request.accepts request.model) = [] ∧
        formatMatchingModelName request.model ≠ "" ∧
        formatMatchingModelName request.model ≠ request.model
  · rw [if_pos fallback, if_pos ⟨noneNamed.mpr fallback.1, fallback.2⟩]
    exact normalized
  · rw [if_neg fallback, if_neg fun contrary => fallback ⟨noneNamed.mp contrary.1, contrary.2⟩]
    exact named

theorem database_matching (mirrors : state.tables.Mirrors) :
    ∃ (loaded : List RoutedChannel) (queryModel : String),
      loaded.Perm (state.acceptable request) ∧
        state.matchingAbilities request =
          loaded.map fun channel => channel.ability request.group queryModel := by
  have named := database_candidates_perm state request request.model mirrors
  have normalized := database_candidates_perm state request
    (formatMatchingModelName request.model) mirrors
  have noneNamed := eq_nil_iff_of_perm_map named
  unfold matchingAbilities acceptable
  by_cases fallback : state.channels.filter (request.accepts request.model) = [] ∧
        formatMatchingModelName request.model ≠ "" ∧
        formatMatchingModelName request.model ≠ request.model
  · rw [if_pos fallback, if_pos ⟨noneNamed.mpr fallback.1, fallback.2⟩]
    obtain ⟨loaded, order, equal⟩ := exists_loaded normalized
    exact ⟨loaded, _, order, equal⟩
  · rw [if_neg fallback, if_neg fun contrary => fallback ⟨noneNamed.mp contrary.1, contrary.2⟩]
    obtain ⟨loaded, order, equal⟩ := exists_loaded named
    exact ⟨loaded, _, order, equal⟩

/-- The memory cache and the database choose every channel with the same
probability, and both choose none where no channel is acceptable. -/
theorem cached_and_database_choose_alike (mirrors : state.tables.Mirrors)
    (trimmed : trimSpace request.group = request.group ∧ trimSpace request.model = request.model) :
    (∀ event : Pick → Bool,
      (state.initChannelCache.getRandomSatisfiedChannelWithExcludeAndFilter
          request).probability event =
        (state.getChannelWithExcludeAndFilter request).probability event) ∧
      (state.acceptable request = [] →
        state.initChannelCache.getRandomSatisfiedChannelWithExcludeAndFilter
            request = .done (.ok none) ∧
          state.getChannelWithExcludeAndFilter request = .done (.ok none)) := by
  obtain ⟨cached, cachedOrder, cacheMatching⟩ := cache_matching state request
  obtain ⟨stored, queryModel, storedOrder, databaseMatching⟩ :=
    database_matching state request mirrors
  constructor
  · intro event
    have fromCache := probability_cachePick cacheMatching
      (fun channel member => RoutingState.find_id
        (acceptable_loaded state request channel (cachedOrder.subset member)))
      event
    have fromDatabase := probability_databasePick trimmed databaseMatching
      (fun channel member => RoutingState.find_id
        (acceptable_loaded state request channel (storedOrder.subset member)))
      event
    rw [fromCache, fromDatabase]
    exact fairShare_perm (cachedOrder.trans storedOrder.symm) _ event
  · intro nobody
    rw [nobody] at cachedOrder storedOrder
    rw [cachedOrder.eq_nil] at cacheMatching
    rw [storedOrder.eq_nil] at databaseMatching
    constructor
    · unfold ChannelCache.getRandomSatisfiedChannelWithExcludeAndFilter
      rw [cacheMatching]
      rfl
    · unfold RoutingState.getChannelWithExcludeAndFilter
      dsimp only
      rw [trimmed.1, trimmed.2, databaseMatching]
      split_ifs <;> rfl

end Matching

@[reducible]
def stableSort : HostSort where
  sortBy := fun before items => items.mergeSort fun left right => !before right left
  perm := fun _ items => List.mergeSort_perm items _

def weightedChannels : RoutingState where
  tables := @RoutingTables.step RoutingTables.linesOnly RoutingTables.empty
    ⟨.batchInsertChannels
      [{ RoutingTables.newChannel "default" "a" with weight := some 1 },
        { RoutingTables.newChannel "default" "a" with id := 2, weight := some 3 }], 0⟩
  routes := fun _ => ⟨1, none⟩

theorem weightedChannels_mirrors : weightedChannels.tables.Mirrors := by
  have reflects : weightedChannels.tables.Reflects :=
    (@RoutingTables.step_maintains linesOnly empty
      _).reflects reflects_empty
  apply (mirrors_iff_separable reflects).mpr
  decide +kernel

theorem weightedChannels_choose_alike : weightedChannels.tables.Mirrors ∧
      ∀ event : Pick → Bool,
        ((@RoutingState.initChannelCache stableSort
          weightedChannels).getRandomSatisfiedChannelWithExcludeAndFilter
            ⟨"default", "a", 0, [], "", none⟩).probability event =
          (@RoutingState.getChannelWithExcludeAndFilter stableSort
            weightedChannels ⟨"default", "a", 0, [], "", none⟩).probability event := by
  refine ⟨weightedChannels_mirrors, ?_⟩
  have trimmed : trimSpace "default" = "default" ∧ trimSpace "a" = "a" := by decide +kernel
  exact (@cached_and_database_choose_alike stableSort weightedChannels
    ⟨"default", "a", 0, [], "", none⟩ weightedChannels_mirrors trimmed).1

end NewApi.Channels
