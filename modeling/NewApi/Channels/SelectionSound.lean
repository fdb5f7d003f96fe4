import NewApi.Channels.SelectionParity

/-!
# What is chosen

A chosen channel is stored and not excluded, whichever way it was chosen and
whatever was rolled; the abilities lead to one that serves the request.
-/

namespace NewApi.Channels

open Draws GoStrings Transactions NewApi.Pricing RoutingState RoutingTables

variable {state : RoutingState} {channel : RoutedChannel}

theorem find_some {id : Nat} (found : state.find id = some channel) :
    channel ∈ state.channels ∧ channel.id = id := by
  obtain ⟨row, located, rfl⟩ := Option.map_eq_some_iff.mp found
  obtain ⟨member, rowId⟩ := KeyedTable.lookup_eq_some_iff.mp located
  exact ⟨List.mem_map.mpr ⟨row, member, rfl⟩, rowId⟩

variable {request : PickRequest} {random : Nat}

theorem drawSmoothed_mem {priority : Int} {tier : List RoutedChannel}
    (chosen : (ChannelCache.drawSmoothed request priority tier).run random =
      .ok (some channel)) : channel ∈ tier := by
  unfold ChannelCache.drawSmoothed at chosen
  split at chosen
  · cases chosen
  unfold Draw.run at chosen
  dsimp only at chosen
  split at chosen
  · rename_i picked outcome
    cases chosen
    have member := pickByWeight_mem _ outcome
    rw [List.map_map] at member
    obtain ⟨source, listed, same⟩ := List.mem_map.mp member
    rw [← same]
    exact listed
  · cases chosen

theorem cachePick_mem {cache : ChannelCache} {loaded : List RoutedChannel}
    (matching : cache.matchingChannels request = loaded.map (·.id))
    (cached : ∀ channel ∈ loaded, cache.channelsIDM channel.id = some channel)
    (chosen : (cache.getRandomSatisfiedChannelWithExcludeAndFilter
      request).run random = .ok (some channel)) : channel ∈ loaded := by
  unfold ChannelCache.getRandomSatisfiedChannelWithExcludeAndFilter at chosen
  rw [matching] at chosen
  cases loaded with
  | nil => cases chosen
  | cons first others =>
    cases others with
    | nil =>
      have fetched : cache.fetch first.id = .ok first := by
        unfold ChannelCache.fetch
        rw [cached first List.mem_cons_self]
      have result : (cache.fetch first.id).map some = .ok (some channel) := chosen
      rw [fetched] at result
      cases result
      exact List.mem_cons_self
    | cons second others =>
      have loads := mapM_fetch cached
      simp only [List.map_cons] at loads chosen
      rw [loads] at chosen
      exact List.mem_of_mem_filter (drawSmoothed_mem chosen)

theorem selectLoop_mem (items : List (Ability × Nat)) :
    ∀ {roll : Nat} {last : Option Ability} {ability : Ability},
      selectLoop items roll last = some ability →
        ability ∈ items.map Prod.fst ∨ last = some ability := by
  induction items with
  | nil => exact fun chosen => Or.inr chosen
  | cons first items ih =>
    intro roll last ability chosen
    unfold selectLoop at chosen
    split at chosen
    · rcases ih chosen with later | before
      · exact Or.inl (List.mem_cons_of_mem _ later)
      · exact Or.inr before
    · split at chosen
      · cases chosen
        exact Or.inl List.mem_cons_self
      · rcases ih chosen with later | here
        · exact Or.inl (List.mem_cons_of_mem _ later)
        · cases here
          exact Or.inl List.mem_cons_self

variable {ability : Ability}

theorem selectAbilityByWeight_mem {abilities : List Ability} {roll : Nat}
    (chosen : selectAbilityByWeight abilities roll =
      some ability) : ability ∈ abilities := by
  unfold selectAbilityByWeight at chosen
  dsimp only at chosen
  split at chosen
  · cases chosen
  rcases selectLoop_mem _ chosen with listed | contrary
  · unfold abilitySelectionWeights at listed
    rw [List.map_map] at listed
    obtain ⟨source, member, same⟩ := List.mem_map.mp listed
    rw [← same]
    exact member
  · cases contrary

variable [HostSort]

theorem findPathFilteredAbilities_selected {queryModel : String}
    (listed : ability ∈ state.findPathFilteredAbilities request queryModel) :
    ability ∈ state.tables.abilities.rows ∧ sqlTrim ability.group = request.group ∧
      sqlTrim ability.model = queryModel ∧ ability.enabled = true ∧
        (ability.channelId : Int) ∉ request.excludeChannelIds := by
  have onPath : ∀ {abilities : List Ability},
      ability ∈ state.filterAbilitiesByRequestPathAndModel abilities
        request.requestPath request.model → ability ∈ abilities := by
    intro abilities kept
    unfold filterAbilitiesByRequestPathAndModel at kept
    split at kept
    · exact kept
    · exact List.mem_of_mem_filter kept
  unfold findPathFilteredAbilities at listed
  have selected : ability ∈ state.tables.abilities.rows.filter fun ability =>
      sqlTrim ability.group = request.group &&
        sqlTrim ability.model = queryModel && ability.enabled &&
        (ability.channelId : Int) ∉ request.excludeChannelIds := by
    split at listed
    · exact (HostSort.perm _ _).subset (onPath listed)
    · exact (HostSort.perm _ _).subset (onPath (List.mem_of_mem_filter listed))
  simpa only [List.mem_filter, Bool.and_eq_true, decide_eq_true_eq, and_assoc] using selected

theorem matchingAbilities_selected (listed : ability ∈ state.matchingAbilities request) :
    ∃ queryModel ∈ [request.model, formatMatchingModelName request.model],
      ability ∈ state.findPathFilteredAbilities request queryModel := by
  unfold matchingAbilities at listed
  dsimp only at listed
  split at listed
  · exact ⟨_, List.mem_cons_of_mem _ List.mem_cons_self, listed⟩
  · exact ⟨_, List.mem_cons_self, listed⟩

theorem databasePick_ability
    (chosen : (state.getChannelWithExcludeAndFilter request).run random = .ok (some channel)) :
    ∃ ability, state.find ability.channelId = some channel ∧
      ∃ queryModel ∈ [trimSpace request.model, formatMatchingModelName (trimSpace request.model)],
        ability ∈ state.findPathFilteredAbilities
          { request with group := trimSpace request.group, model := trimSpace request.model }
          queryModel := by
  unfold getChannelWithExcludeAndFilter at chosen
  dsimp only at chosen
  split at chosen
  · cases chosen
  unfold drawAbility at chosen
  dsimp only at chosen
  split at chosen
  · cases chosen
  split at chosen
  · cases chosen
  unfold Draw.run loadChosen at chosen
  dsimp only at chosen
  split at chosen
  · cases chosen
  rename_i ability picked
  split at chosen
  · cases chosen
  rename_i loaded found
  cases chosen
  have listed := List.mem_of_mem_filter (selectAbilityByWeight_mem picked)
  exact ⟨ability, found, matchingAbilities_selected listed⟩

theorem databasePick_mem
    (chosen : (state.getChannelWithExcludeAndFilter request).run random = .ok (some channel)) :
    channel ∈ state.channels ∧ (channel.id : Int) ∉ request.excludeChannelIds := by
  obtain ⟨ability, found, queryModel, _, listed⟩ := databasePick_ability chosen
  obtain ⟨stored, sameId⟩ := find_some found
  rw [sameId]
  exact ⟨stored, (findPathFilteredAbilities_selected listed).2.2.2.2⟩

omit [HostSort] in
theorem acceptable_included (state : RoutingState) (request : PickRequest) (channel : RoutedChannel)
    (member : channel ∈ state.acceptable request) :
    (channel.id : Int) ∉ request.excludeChannelIds := by
  have accepted : ∃ queryModel, request.accepts queryModel channel = true := by
    unfold acceptable at member
    dsimp only at member
    split at member <;> exact ⟨_, (List.mem_filter.mp member).2⟩
  obtain ⟨queryModel, accepts⟩ := accepted
  unfold PickRequest.accepts at accepts
  simp only [Bool.and_eq_true, decide_eq_true_eq] at accepts
  exact accepts.2

theorem pick_sound {memoryCacheEnabled : Bool}
    (chosen : (state.getRandomSatisfiedChannelWithExcludeAndFilter
      memoryCacheEnabled request).run random = .ok (some channel)) :
    channel ∈ state.channels ∧ (channel.id : Int) ∉ request.excludeChannelIds := by
  unfold getRandomSatisfiedChannelWithExcludeAndFilter at chosen
  split at chosen
  · obtain ⟨loaded, order, matching⟩ := cache_matching state request
    have cached : ∀ other ∈ loaded, state.initChannelCache.channelsIDM other.id = some other :=
      fun other member => find_id
        (acceptable_loaded state request other (order.subset member))
    have listed := order.subset (cachePick_mem matching cached chosen)
    refine ⟨acceptable_loaded state request channel listed, ?_⟩
    exact acceptable_included state request channel listed
  · exact databasePick_mem chosen

/-! ## Runs -/

variable [JsonCodec]

omit [HostSort] in
theorem reflects_execute {tables : RoutingTables} (reflects : tables.Reflects)
    (calls : List Call) : (execute step tables calls).Reflects := by
  induction calls generalizing tables with
  | nil => exact reflects
  | cons call rest ih => exact ih ((step_maintains tables call).reflects reflects)

omit [HostSort] [JsonCodec] in
theorem mem_of_sqlTrim {names : String} {name wanted : String}
    (listed : name ∈ splitCommaSeparated names) (same : sqlTrim name = wanted) :
    wanted ∈ splitCommaSeparated names := by
  rw [sqlTrim_eq_self (splitCommaSeparated_trimmed _ _ listed)] at same
  exact same ▸ listed

omit [HostSort] [JsonCodec] in
theorem chosen_of_join {outcome : Pick} (joined : outcome.toOption.join = some channel) :
    outcome = .ok (some channel) := by
  cases outcome with
  | error err => cases joined
  | ok picked => exact congrArg Except.ok joined

/-- After every run of operations on the channels, the abilities lead to an
enabled channel that serves the group and the model, if to any. -/
theorem chosen_channel_serves (calls : List Call) (routes : Nat → RouteColumns)
    (request : PickRequest) (random : Nat) :
    ((getChannelWithExcludeAndFilter ⟨execute step .empty calls, routes⟩
      request).run random).toOption.join.all (fun channel =>
        [trimSpace request.model, formatMatchingModelName (trimSpace request.model)].any
          (channel.serves (trimSpace request.group))) = true := by
  have reflects := reflects_execute reflects_empty calls
  rw [Option.all_eq_true]
  intro channel joined
  obtain ⟨ability, found, model, listed, selected⟩ := databasePick_ability (chosen_of_join joined)
  obtain ⟨stored, group, same, enabled, _⟩ := findPathFilteredAbilities_selected selected
  obtain ⟨row, rowListed, kept⟩ := (reflects.mem_iff ability).mp stored
  obtain ⟨pair, isAbility⟩ := (abilityFor_eq_some_iff row ability).mp kept
  have names := (mem_namePairs _ _ _).mp (mem_namePairs_of_abilityPairs pair)
  have located := KeyedTable.lookup_eq_some_iff.mpr
    ⟨rowListed, (congrArg Ability.channelId isAbility).symm⟩
  simp only [find, located, Option.map_some, Option.some.injEq] at found
  subst found
  rw [isAbility] at enabled
  refine List.any_eq_true.mpr ⟨model, listed, ?_⟩
  simp only [RoutedChannel.serves, Bool.and_eq_true, decide_eq_true_eq]
  exact ⟨⟨of_decide_eq_true enabled, mem_of_sqlTrim names.1 group⟩, mem_of_sqlTrim names.2 same⟩

end NewApi.Channels
