import NewApi.Channels.ChannelSelection

/-!
# Fair shares

Both ways to a channel give every channel of one priority its weight out of the
weights of that priority, or equal parts where all weights are zero.  What they
choose depends on the candidates alone, not on their order.
-/

namespace NewApi.Channels

open GoStrings Draws RoutingState ChannelCache

def retryTier (candidates : List RoutedChannel) (retry : Nat) :
    List RoutedChannel :=
  candidates.filter (·.getPriority = targetPriority (candidates.map (·.getPriority)) retry)

/-- A channel counts by its weight, or once where all weights are zero. -/
def fairWeights (tier : List RoutedChannel) : List (RoutedChannel × Nat) :=
  let hasPositive := tier.any fun channel => 0 < channel.getWeight
  tier.map fun channel => (channel, if hasPositive then channel.getWeight else 1)

def fairShare (candidates : List RoutedChannel) (retry : Nat) (event : Pick → Bool) : ℚ :=
  if candidates = [] then if event (.ok none) then 1 else 0
  else
    weightedShare (fairWeights (retryTier candidates retry)) fun channel =>
      event (.ok (some channel))

theorem targetPriority_perm {left right : List Int} (same : left.Perm right) (retry : Nat) :
    targetPriority left retry = targetPriority right retry := by
  unfold targetPriority
  rw [List.toFinset_eq_of_perm left right same]

variable {left right : List RoutedChannel}

theorem retryTier_perm (same : left.Perm right) (retry : Nat) :
    (retryTier left retry).Perm (retryTier right retry) := by
  unfold retryTier
  rw [targetPriority_perm (same.map _) retry]
  exact same.filter _

theorem fairWeights_perm (same : left.Perm right) :
    (fairWeights left).Perm (fairWeights right) := by
  unfold fairWeights
  rw [same.any_eq]
  exact same.map _

theorem fairShare_perm (same : left.Perm right) (retry : Nat) (event : Pick → Bool) :
    fairShare left retry event = fairShare right retry event := by
  unfold fairShare
  by_cases empty : left = []
  · have alsoEmpty : right = [] := by
      rw [empty] at same
      exact same.symm.eq_nil
    rw [if_pos empty, if_pos alsoEmpty]
  · have alsoFilled : right ≠ [] := by
      intro contrary
      rw [contrary] at same
      exact empty same.eq_nil
    rw [if_neg empty, if_neg alsoFilled]
    exact weightedShare_perm (fairWeights_perm (retryTier_perm same retry)) _

theorem targetPriority_mem {priorities : List Int} (nonempty : priorities ≠ []) (retry : Nat) :
    targetPriority priorities retry ∈ priorities := by
  have filled : 0 < (priorities.toFinset.sort (· ≥ ·)).length := by
    rw [Finset.length_sort, Finset.card_pos, List.toFinset_nonempty_iff]
    exact nonempty
  have inside : min retry ((priorities.toFinset.sort (· ≥ ·)).length - 1) <
      (priorities.toFinset.sort (· ≥ ·)).length := by
    omega
  unfold targetPriority
  rw [List.getD_eq_getElem?_getD, List.getElem?_eq_getElem inside, Option.getD_some]
  have member := List.getElem_mem inside
  rwa [Finset.mem_sort, List.mem_toFinset] at member

theorem retryTier_ne_nil {candidates : List RoutedChannel} (nonempty : candidates ≠ [])
    (retry : Nat) : retryTier candidates retry ≠ [] := by
  have some_priority : candidates.map (·.getPriority) ≠ [] := by simpa using nonempty
  obtain ⟨channel, member, priority⟩ := List.mem_map.mp (targetPriority_mem some_priority retry)
  have kept : channel ∈ retryTier candidates retry :=
    List.mem_filter.mpr ⟨member, decide_eq_true priority⟩
  exact List.ne_nil_of_mem kept

variable {tier : List RoutedChannel}

theorem fairWeights_positive (nonempty : tier ≠ []) : 0 < totalWeight (fairWeights tier) := by
  apply Nat.pos_of_ne_zero
  intro zero
  have weightless : ∀ channel ∈ tier,
      (if tier.any fun channel => 0 < channel.getWeight then channel.getWeight
        else 1) = 0 := by
    intro channel member
    apply List.sum_eq_zero_iff_forall_eq_nat.mp zero
    unfold fairWeights
    rw [List.map_map]
    exact List.mem_map.mpr ⟨channel, member, rfl⟩
  by_cases positive : (tier.any fun channel => 0 < channel.getWeight) = true
  · obtain ⟨channel, member, weighs⟩ := List.any_eq_true.mp positive
    have none := weightless channel member
    rw [if_pos positive] at none
    rw [none] at weighs
    exact absurd weighs (by decide)
  · obtain ⟨channel, member⟩ := List.exists_mem_of_ne_nil tier nonempty
    have none := weightless channel member
    rw [if_neg positive] at none
    cases none

theorem any_positive_iff (tier : List RoutedChannel) :
    (tier.any fun channel => 0 < channel.getWeight) = true ↔ (tier.map (·.getWeight)).sum ≠ 0 := by
  rw [Ne, List.sum_eq_zero_iff_forall_eq_nat, List.any_eq_true]
  constructor
  · rintro ⟨channel, member, positive⟩ zero
    have none := zero _ (List.mem_map.mpr ⟨channel, member, rfl⟩)
    rw [none] at positive
    exact absurd positive (by decide)
  · intro nonzero
    by_contra noneWeighs
    apply nonzero
    intro weight listed
    obtain ⟨channel, member, rfl⟩ := List.mem_map.mp listed
    by_contra positive
    exact noneWeighs ⟨channel, member, decide_eq_true (Nat.pos_of_ne_zero positive)⟩

theorem probability_scaledDraw (tier : List RoutedChannel) (factor : Nat) {bound : Nat}
    (positive : 0 < factor) (weights : List (RoutedChannel × Nat))
    (scaled : weights = (fairWeights tier).map fun item => (item.1, factor * item.2))
    (total : bound = factor * totalWeight (fairWeights tier)) (event : Pick → Bool) :
    (Draw.intn bound fun roll =>
        (match pickByWeight weights roll with
          | some channel => .ok (some channel)
          | none => .error .channelNotFound : Pick)).probability event =
      weightedShare (fairWeights tier) fun channel =>
        event (.ok (some channel)) := by
  have bounded : bound = totalWeight weights := by rw [scaled, totalWeight_scaled, total]
  rw [bounded]
  refine (probability_pickByWeight weights
    (fun picked => (match picked with
      | some channel => .ok (some channel)
      | none => .error .channelNotFound : Pick)) event).trans ?_
  rw [scaled, weightedShare_scaled _ positive]

theorem totalWeight_fairWeights (tier : List RoutedChannel) : totalWeight (fairWeights tier) =
      if (tier.map (·.getWeight)).sum = 0 then tier.length
      else (tier.map (·.getWeight)).sum := by
  unfold fairWeights totalWeight
  rw [List.map_map]
  by_cases zero : (tier.map (·.getWeight)).sum = 0
  · have noneWeighs : (tier.any fun channel => 0 < channel.getWeight) = false := by
      rw [← Bool.not_eq_true, any_positive_iff]
      exact not_not.mpr zero
    rw [if_pos zero, noneWeighs]
    simp [Function.comp_def]
  · rw [if_neg zero, (any_positive_iff tier).mpr zero]
    rfl

theorem probability_drawSmoothed (request : PickRequest) (priority : Int)
    (nonempty : tier ≠ []) (event : Pick → Bool) :
    (drawSmoothed request priority tier).probability event =
      weightedShare (fairWeights tier) fun channel =>
        event (.ok (some channel)) := by
  have total := totalWeight_fairWeights tier
  unfold drawSmoothed
  rw [if_neg nonempty]
  by_cases zero : (tier.map (·.getWeight)).sum = 0
  · have noneWeighs : (tier.any fun channel => 0 < channel.getWeight) = false := by
      rw [← Bool.not_eq_true, any_positive_iff]
      exact not_not.mpr zero
    rw [if_pos zero] at total
    rw [if_pos zero, if_pos zero, if_pos zero]
    apply probability_scaledDraw tier 100 (by decide)
    · unfold fairWeights
      rw [noneWeighs, List.map_map]
      apply List.map_congr_left
      intro channel member
      have weightless : channel.getWeight = 0 :=
        List.sum_eq_zero_iff_forall_eq_nat.mp zero _ (List.mem_map.mpr ⟨channel, member, rfl⟩)
      simp [weightless]
    · omega
  · rw [if_neg zero] at total
    rw [if_neg zero, if_neg zero, if_neg zero]
    generalize smoothing :
      (if (tier.map (·.getWeight)).sum / tier.length < 10 then 100 else 1) = factor
    have positive : 0 < factor := by
      rw [← smoothing]
      split_ifs <;> decide
    apply probability_scaledDraw tier factor positive
    · unfold fairWeights
      rw [(any_positive_iff tier).mpr zero, List.map_map]
      apply List.map_congr_left
      intro channel _
      simp [Nat.mul_comm]
    · rw [total, Nat.mul_comm]

theorem fairShare_singleton (channel : RoutedChannel) (retry : Nat) (event : Pick → Bool) :
    fairShare [channel] retry event = if event (.ok (some channel)) then 1 else 0 := by
  have single : retryTier [channel] retry = [channel] := by
    have sublist : (retryTier [channel] retry).Sublist [channel] := List.filter_sublist
    rcases List.sublist_singleton.mp sublist with empty | whole
    · exact absurd empty (retryTier_ne_nil (List.cons_ne_nil channel []) retry)
    · exact whole
  have positive := fairWeights_positive (List.cons_ne_nil channel [])
  unfold fairShare
  rw [if_neg (List.cons_ne_nil channel []), single]
  exact weightedShare_singleton channel positive _

variable {loaded : List RoutedChannel}

theorem mapM_fetch {cache : ChannelCache}
    (cached : ∀ channel ∈ loaded, cache.channelsIDM channel.id = some channel) :
    (loaded.map (·.id)).mapM cache.fetch = .ok loaded := by
  induction loaded with
  | nil => rfl
  | cons channel loaded ih =>
    have first : cache.fetch channel.id = .ok channel := by
      unfold fetch
      rw [cached channel List.mem_cons_self]
    have rest := ih fun other member => cached other (List.mem_cons_of_mem channel member)
    rw [List.map_cons, List.mapM_cons, first, rest]
    rfl

theorem probability_cachePick {cache : ChannelCache} {request : PickRequest}
    (matching : cache.matchingChannels request = loaded.map (·.id))
    (cached : ∀ channel ∈ loaded, cache.channelsIDM channel.id = some channel)
    (event : Pick → Bool) :
    (cache.getRandomSatisfiedChannelWithExcludeAndFilter request).probability
        event = fairShare loaded request.effectiveRetry event := by
  unfold ChannelCache.getRandomSatisfiedChannelWithExcludeAndFilter
  rw [matching]
  cases loaded with
  | nil => rfl
  | cons first others =>
    cases others with
    | nil =>
      have fetched : cache.fetch first.id = .ok first := by
        unfold fetch
        rw [cached first List.mem_cons_self]
      rw [fairShare_singleton, List.map_cons, List.map_nil]
      dsimp only
      rw [fetched]
      rfl
    | cons second others =>
      have nonempty : first :: second :: others ≠ [] := List.cons_ne_nil _ _
      have loads := mapM_fetch cached
      simp only [List.map_cons] at loads ⊢
      rw [loads]
      unfold fairShare
      exact probability_drawSmoothed request _
        (retryTier_ne_nil nonempty request.effectiveRetry) event

theorem selectLoop_eq (items : List (Ability × Nat)) :
    ∀ {roll : Nat} (last : Option Ability), roll < totalWeight items →
      selectLoop items roll last = pickByWeight items roll := by
  induction items with
  | nil => exact fun _ below => absurd below (Nat.not_lt_zero _)
  | cons first items ih =>
    obtain ⟨ability, weight⟩ := first
    intro roll last below
    rw [totalWeight_cons] at below
    unfold selectLoop pickByWeight
    by_cases weightless : weight = 0
    · have rest : roll < totalWeight items := by omega
      rw [if_pos weightless, ih last rest, if_neg (by omega), weightless, Nat.sub_zero]
    · rw [if_neg weightless]
      by_cases inside : roll < weight
      · rw [if_pos inside, if_pos inside]
      · have rest : roll - weight < totalWeight items := by omega
        rw [if_neg inside, if_neg inside, ih _ rest]

theorem filterAbilities_map (loaded : List RoutedChannel) (group model : String) (retry : Nat) :
    filterAbilitiesByRetryPriority
        (loaded.map fun channel => channel.ability group model) retry =
      (retryTier loaded retry).map fun channel =>
        channel.ability group model := by
  unfold filterAbilitiesByRetryPriority retryTier
  rw [List.filter_map, List.map_map]
  rfl

theorem abilitySelectionWeights_map (tier : List RoutedChannel) (group model : String) :
    abilitySelectionWeights (tier.map fun channel => channel.ability group model) =
      (fairWeights tier).map fun item =>
        (item.1.ability group model, item.2) := by
  unfold abilitySelectionWeights fairWeights
  rw [List.any_map, List.map_map, List.map_map]
  rfl

theorem probability_drawAbility {state : RoutingState} (group model : String) (nonempty : tier ≠ [])
    (stored : ∀ channel ∈ tier, state.find channel.id = some channel) (event : Pick → Bool) :
    (state.drawAbility (tier.map fun channel => channel.ability group model)).probability event =
      weightedShare (fairWeights tier) fun channel =>
        event (.ok (some channel)) := by
  have some_ability : (tier.map fun channel => channel.ability group model) ≠ [] := by
    simpa using nonempty
  have weights := abilitySelectionWeights_map tier group model
  have total : totalWeight ((fairWeights tier).map fun item =>
      (item.1.ability group model, item.2)) = totalWeight (fairWeights tier) :=
    totalWeight_map (fairWeights tier) fun channel => channel.ability group model
  have positive := fairWeights_positive nonempty
  unfold drawAbility
  rw [if_neg some_ability, weights, total, if_neg positive.ne']
  have picks : ∀ roll, roll < totalWeight (fairWeights tier) →
      selectAbilityByWeight
          (tier.map fun channel => channel.ability group model) roll =
        pickByWeight ((fairWeights tier).map fun item =>
          (item.1.ability group model, item.2)) roll := by
    intro roll below
    unfold selectAbilityByWeight
    dsimp only
    rw [weights, total, if_neg positive.ne', Nat.mod_eq_of_lt below]
    apply selectLoop_eq
    rw [total]
    exact below
  refine (Draw.probability_congr (fun roll below => by rw [picks roll below]) event).trans ?_
  rw [← total]
  rw [probability_pickByWeight _ state.loadChosen]
  refine (weightedShare_map (fairWeights tier)
    (fun channel => channel.ability group model) _).trans ?_
  apply weightedShare_congr
  intro item member
  obtain ⟨channel, listed, rfl⟩ := List.mem_map.mp member
  have found : state.find (channel.ability group model).channelId = some channel :=
    stored channel listed
  have loads : state.loadChosen (some (channel.ability group model)) = .ok (some channel) := by
    unfold loadChosen
    dsimp only
    rw [found]
  exact congrArg event loads

theorem probability_databasePick [HostSort]
    {state : RoutingState} {request : PickRequest} {group model : String}
    (trimmed : trimSpace request.group = request.group ∧ trimSpace request.model = request.model)
    (matching : state.matchingAbilities request =
      loaded.map fun channel => channel.ability group model)
    (stored : ∀ channel ∈ loaded, state.find channel.id = some channel) (event : Pick → Bool) :
    (state.getChannelWithExcludeAndFilter request).probability event =
      fairShare loaded request.effectiveRetry event := by
  unfold getChannelWithExcludeAndFilter
  dsimp only
  rw [trimmed.1, trimmed.2, matching]
  by_cases empty : loaded = []
  · rw [empty]
    split_ifs <;> rfl
  · have some_ability : (loaded.map fun channel => channel.ability group model) ≠ [] := by
      simpa using empty
    rw [if_neg (fun contrary => some_ability contrary.1), filterAbilities_map]
    unfold fairShare
    rw [if_neg empty]
    apply probability_drawAbility group model
    · exact retryTier_ne_nil empty _
    · exact fun channel member => stored channel (List.mem_of_mem_filter member)

end NewApi.Channels
