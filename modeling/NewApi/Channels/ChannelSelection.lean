import Mathlib.Data.Finset.Sort
import NewApi.Channels.RoutingTables
import NewApi.Lib.Draws
import NewApi.Pricing.ModelRatio

/-!
# Choosing a channel

A request takes a channel from the memory cache or, without a cache, from the
table of abilities.  Both ways filter the candidates, go down one priority with
each retry and draw one channel of that priority by its weight.
-/

namespace NewApi.Channels

open GoStrings Draws NewApi.Pricing

/-- Sorting in the host, which leaves the order of equal items open. -/
class HostSort where
  sortBy : {α : Type} → (α → α → Bool) → List α → List α
  perm : ∀ {α : Type} (before : α → α → Bool) (items : List α), (sortBy before items).Perm items

structure AdvancedCustomConfig where
  supportsPathForModel : String → String → Bool

structure RouteColumns where
  type : Int
  /-- `GetOtherSettings().AdvancedCustom`. -/
  advancedCustom : Option AdvancedCustomConfig

def channelTypeAdvancedCustom : Int := 58

structure RoutedChannel extends Channel where
  routes : RouteColumns

structure RoutingState where
  tables : RoutingTables
  routes : Nat → RouteColumns

namespace RoutingState

def load (state : RoutingState) (row : Channel) : RoutedChannel where
  toChannel := row
  routes := state.routes row.id

def channels (state : RoutingState) : List RoutedChannel :=
  state.tables.channels.rows.map state.load

def find (state : RoutingState) (id : Nat) : Option RoutedChannel :=
  (state.tables.channels.lookup id).map state.load

end RoutingState

inductive PickError where
  /-- "database consistency error, channel #%d does not exist". -/
  | inconsistent (id : Nat)
  /-- "no channel found, group: %s, model: %s, priority: %d". -/
  | noChannelFound (group model : String) (priority : Int)
  /-- "channel not found". -/
  | channelNotFound
  | recordNotFound
deriving DecidableEq

abbrev Pick := Except PickError (Option RoutedChannel)

structure PickRequest where
  group : String
  model : String
  retry : Nat
  excludeChannelIds : List Int
  requestPath : String
  channelFilter : Option (RoutedChannel → Bool)

/-- The priority for a retry: that of the `retry`-th priority from above, or
the lowest one. -/
def targetPriority (priorities : List Int) (retry : Nat) : Int :=
  let sorted := priorities.toFinset.sort (· ≥ ·)
  sorted.getD (min retry (sorted.length - 1)) 0

/-- `retry` of a request, which counts only without excluded channels. -/
def PickRequest.effectiveRetry (request : PickRequest) : Nat :=
  if request.excludeChannelIds = [] then request.retry else 0

/-- `group2model2channels`; a missing entry is empty. -/
abbrev ChannelIndex := String → String → List Nat

def ChannelIndex.append (index : ChannelIndex) (group model : String) (id : Nat) : ChannelIndex :=
  fun otherGroup otherModel =>
    if otherGroup = group ∧ otherModel = model then index otherGroup otherModel ++ [id]
    else index otherGroup otherModel

def ChannelIndex.add (index : ChannelIndex) (channel : RoutedChannel) :
    ChannelIndex :=
  if channel.status ≠ channelStatusEnabled then index
  else
    channel.getGroups.foldl
      (fun index group =>
        channel.getModels.foldl (fun index model => index.append group model channel.id) index)
      index

structure ChannelCache where
  group2model2channels : ChannelIndex
  channelsIDM : Nat → Option RoutedChannel
  channel2advancedCustomConfig : Nat → Option AdvancedCustomConfig

def RoutingState.initChannelCache [HostSort] (state : RoutingState) :
    ChannelCache :=
  let priorityOf := fun id => ((state.find id).map (·.getPriority)).getD 0
  let index := state.channels.foldl ChannelIndex.add fun _ _ => []
  { group2model2channels := fun group model =>
      HostSort.sortBy (fun left right => priorityOf left > priorityOf right) (index group model)
    channelsIDM := state.find
    channel2advancedCustomConfig := fun id =>
      (state.find id).bind fun channel =>
        if channel.routes.type = channelTypeAdvancedCustom then channel.routes.advancedCustom
        else none }

namespace ChannelCache

def filterChannelsByRequestPathAndModel
    (cache : ChannelCache) (channels : List Nat) (requestPath model : String) :
    List Nat :=
  if requestPath = "" then channels
  else
    channels.filter fun id =>
      match cache.channelsIDM id with
      | none => true
      | some channel =>
        if channel.routes.type ≠ channelTypeAdvancedCustom then true
        else
          (cache.channel2advancedCustomConfig id).any (·.supportsPathForModel requestPath model)

def filterChannelsByPredicate (cache : ChannelCache) (channels : List Nat)
    (channelFilter : Option (RoutedChannel → Bool)) : List Nat :=
  match channelFilter with
  | none => channels
  | some passes => channels.filter fun id => (cache.channelsIDM id).any passes

def filterExcludedChannels (channels : List Nat) (excludeChannelIds : List Int) : List Nat :=
  channels.filter fun id => (id : Int) ∉ excludeChannelIds

def candidates (cache : ChannelCache) (request : PickRequest) (queryModel : String) :
    List Nat :=
  filterExcludedChannels
    (cache.filterChannelsByPredicate
      (cache.filterChannelsByRequestPathAndModel
        (cache.group2model2channels request.group queryModel)
        request.requestPath request.model)
      request.channelFilter)
    request.excludeChannelIds

/-- The candidates for the model, or else for its normalized name. -/
def matchingChannels (cache : ChannelCache) (request : PickRequest) :
    List Nat :=
  let channels := cache.candidates request request.model
  let normalizedModel := formatMatchingModelName request.model
  if channels = [] ∧ normalizedModel ≠ "" ∧ normalizedModel ≠ request.model then
    cache.candidates request normalizedModel
  else channels

def fetch (cache : ChannelCache) (id : Nat) : Except PickError RoutedChannel :=
  match cache.channelsIDM id with
  | none => .error (.inconsistent id)
  | some channel => .ok channel

def drawSmoothed (request : PickRequest) (priority : Int)
    (targetChannels : List RoutedChannel) : Draw Pick :=
  let sumWeight := (targetChannels.map (·.getWeight)).sum
  if targetChannels = [] then .done (.error (.noChannelFound request.group request.model priority))
  else
    let smoothingAdjustment := if sumWeight = 0 then 100 else 0
    let smoothingFactor :=
      if sumWeight = 0 then 1
      else if sumWeight / targetChannels.length < 10 then 100 else 1
    let sumWeight := if sumWeight = 0 then targetChannels.length * 100 else sumWeight
    .intn (sumWeight * smoothingFactor) fun randomWeight =>
      match pickByWeight
          (targetChannels.map fun channel =>
            (channel, channel.getWeight * smoothingFactor + smoothingAdjustment))
          randomWeight with
      | some channel => .ok (some channel)
      | none => .error .channelNotFound

def getRandomSatisfiedChannelWithExcludeAndFilter
    (cache : ChannelCache) (request : PickRequest) : Draw Pick :=
  match cache.matchingChannels request with
  | [] => .done (.ok none)
  | [id] => .done ((cache.fetch id).map some)
  | channels =>
    match channels.mapM cache.fetch with
    | .error err => .done (.error err)
    | .ok loaded =>
      let priority := targetPriority (loaded.map (·.getPriority)) request.effectiveRetry
      drawSmoothed request priority (loaded.filter (·.getPriority = priority))

end ChannelCache

def sqlTrim (text : String) : String := String.ofList (trimFunc (· = ' ') text.toList)

namespace RoutingState

def filterAbilitiesByRequestPathAndModel (state : RoutingState) (abilities : List Ability)
    (requestPath model : String) : List Ability :=
  if requestPath = "" then abilities
  else
    abilities.filter fun ability =>
      match (state.find ability.channelId).filter (·.routes.type = channelTypeAdvancedCustom) with
      | none => true
      | some channel =>
        channel.routes.advancedCustom.any (·.supportsPathForModel requestPath model)

def filterAbilitiesByChannelPredicate (state : RoutingState) (abilities : List Ability)
    (channelFilter : RoutedChannel → Bool) : List Ability :=
  abilities.filter fun ability => (state.find ability.channelId).any channelFilter

def findPathFilteredAbilities [HostSort]
    (state : RoutingState) (request : PickRequest) (queryModel : String) :
    List Ability :=
  let selected := state.tables.abilities.rows.filter fun ability =>
    sqlTrim ability.group = request.group && sqlTrim ability.model = queryModel &&
      ability.enabled && (ability.channelId : Int) ∉ request.excludeChannelIds
  let abilities := HostSort.sortBy (fun left right : Ability => left.weight > right.weight) selected
  let filtered := state.filterAbilitiesByRequestPathAndModel abilities
    request.requestPath request.model
  match request.channelFilter with
  | none => filtered
  | some passes => state.filterAbilitiesByChannelPredicate filtered passes

def filterAbilitiesByRetryPriority (abilities : List Ability) (retry : Nat) :
    List Ability :=
  let abilityPriorityValue := fun ability : Ability => ability.priority.getD 0
  let priority := targetPriority (abilities.map abilityPriorityValue) retry
  abilities.filter fun ability => abilityPriorityValue ability = priority

def abilitySelectionWeights (abilities : List Ability) :
    List (Ability × Nat) :=
  let hasPositive := abilities.any fun ability => 0 < ability.weight
  abilities.map fun ability => (ability, if hasPositive then ability.weight else 1)

def selectLoop : List (Ability × Nat) → Nat → Option Ability → Option Ability
  | [], _, last => last
  | (ability, weight) :: rest, roll, last =>
    if weight = 0 then selectLoop rest roll last
    else if roll < weight then some ability
    else selectLoop rest (roll - weight) (some ability)

def selectAbilityByWeight (abilities : List Ability) (roll : Nat) :
    Option Ability :=
  let weights := abilitySelectionWeights abilities
  if totalWeight weights = 0 then none
  else selectLoop weights (roll % totalWeight weights) none

/-- The abilities for the model, or else for its normalized name. -/
def matchingAbilities [HostSort] (state : RoutingState) (request : PickRequest) : List Ability :=
  let abilities := state.findPathFilteredAbilities request request.model
  let normalizedModel := formatMatchingModelName request.model
  if abilities = [] ∧ normalizedModel ≠ "" ∧
      normalizedModel ≠ request.model then
    state.findPathFilteredAbilities request normalizedModel
  else abilities

def loadChosen (state : RoutingState) : Option Ability → Pick
  | none => .ok none
  | some chosen =>
    match state.find chosen.channelId with
    | none => .error .recordNotFound
    | some channel => .ok (some channel)

def drawAbility (state : RoutingState) (abilities : List Ability) : Draw Pick :=
  if abilities = [] then .done (.ok none)
  else
    let totalWeight := totalWeight (abilitySelectionWeights abilities)
    if totalWeight = 0 then .done (.ok none)
    else
      .intn totalWeight fun roll => state.loadChosen (selectAbilityByWeight abilities roll)

def getChannelWithExcludeAndFilter [HostSort]
    (state : RoutingState) (request : PickRequest) : Draw Pick :=
  let request :=
    { request with
      group := trimSpace request.group
      model := trimSpace request.model }
  let abilities := state.matchingAbilities request
  if abilities = [] ∧ request.excludeChannelIds ≠ [] then .done (.ok none)
  else
    state.drawAbility (filterAbilitiesByRetryPriority abilities request.effectiveRetry)

def getRandomSatisfiedChannelWithExcludeAndFilter [HostSort]
    (state : RoutingState) (memoryCacheEnabled : Bool) (request : PickRequest) :
    Draw Pick :=
  if memoryCacheEnabled then
    state.initChannelCache.getRandomSatisfiedChannelWithExcludeAndFilter request
  else state.getChannelWithExcludeAndFilter request

end RoutingState

end NewApi.Channels
