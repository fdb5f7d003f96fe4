import NewApi.Channels.MirrorRuns

/-!
# The product of groups and models

The set that keeps a pair of names from being inserted twice compares
`group + "|" + model`, which does not determine the pair.  Abilities are the
product of groups and models as long as no two pairs of a channel meet there.
-/

namespace NewApi.Channels

open Distinct Transactions KeyedTable

/-- No two groups and models of the texts give the same `pairKey`. -/
def Separable (names : String × String) : Prop :=
  ∀ left ∈ namePairs names.1 names.2, ∀ right ∈ namePairs names.1 names.2,
    pairKey left = pairKey right → left = right

instance (names : String × String) : Decidable (Separable names) :=
  inferInstanceAs (Decidable (∀ left ∈ namePairs names.1 names.2,
    ∀ right ∈ namePairs names.1 names.2, pairKey left = pairKey right → left = right))

theorem mem_namePairs (models group : String) (pair : String × String) :
    pair ∈ namePairs models group ↔
      pair.1 ∈ splitCommaSeparated group ∧ pair.2 ∈ splitCommaSeparated models := by
  constructor
  · intro listed
    obtain ⟨model, modelListed, inner⟩ := List.mem_flatMap.mp listed
    obtain ⟨name, groupListed, rfl⟩ := List.mem_map.mp inner
    exact ⟨groupListed, modelListed⟩
  · rintro ⟨groupListed, modelListed⟩
    exact List.mem_flatMap.mpr ⟨pair.2, modelListed, List.mem_map.mpr ⟨pair.1, groupListed, rfl⟩⟩

theorem mem_namePairs_of_abilityPairs {columns : RoutingColumns} {pair : String × String}
    (kept : pair ∈ columns.abilityPairs) :
    pair ∈ namePairs columns.models columns.group :=
  (distinctBy_sublist pairKey _ []).subset kept

theorem separable_iff (columns : RoutingColumns) : Separable columns.names ↔
      ∀ pair ∈ namePairs columns.models columns.group, pair ∈ columns.abilityPairs := by
  constructor
  · intro separable pair listed
    have seen : pairKey pair ∈ columns.abilityPairs.map pairKey :=
      (mem_map_distinctBy pairKey _ _ []).mpr ⟨List.mem_map_of_mem listed, by simp⟩
    obtain ⟨other, kept, sameKey⟩ := List.mem_map.mp seen
    have equal : other = pair :=
      separable other (mem_namePairs_of_abilityPairs kept) pair listed sameKey
    rw [← equal]
    exact kept
  · intro covers left leftListed right rightListed sameKey
    exact List.inj_on_of_nodup_map (nodup_map_distinctBy pairKey _ [])
      (covers left leftListed) (covers right rightListed) sameKey

namespace RoutingTables

/-- The abilities are the product of the groups and models of each stored
channel, with its status, priority, weight and tag, and there are no others. -/
def Mirrors (tables : RoutingTables) : Prop :=
  ∀ ability : Ability, ability ∈ tables.abilities.rows ↔
    ∃ channel ∈ tables.channels.rows, ∃ group ∈ channel.getGroups,
      ∃ model ∈ channel.getModels, ability = channel.ability group model

theorem Reflects.mem_iff {tables : RoutingTables} (reflects : tables.Reflects) (ability : Ability) :
    ability ∈ tables.abilities.rows ↔
      ∃ channel ∈ tables.channels.rows,
        channel.abilityFor ability.group ability.model = some ability := by
  have located : ability ∈ tables.abilities.rows ↔
      tables.abilityAt ability.group ability.model ability.channelId = some ability := by
    rw [abilityAt, lookup_eq_some_iff]
    exact ⟨fun member => ⟨member, rfl⟩, And.left⟩
  rw [located, reflects]
  constructor
  · intro found
    obtain ⟨channel, stored, kept⟩ := Option.bind_eq_some_iff.mp found
    exact ⟨channel, (lookup_eq_some_iff.mp stored).1, kept⟩
  · rintro ⟨channel, member, kept⟩
    apply Option.bind_eq_some_iff.mpr
    refine ⟨channel, lookup_eq_some_iff.mpr ⟨member, ?_⟩, kept⟩
    exact (abilityFor_channelId kept).1.symm

theorem abilityFor_eq_some_iff (channel : Channel) (ability : Ability) :
    channel.abilityFor ability.group ability.model = some ability ↔
      (ability.group, ability.model) ∈ channel.abilityPairs ∧
        ability = channel.ability ability.group ability.model := by
  unfold Channel.abilityFor
  by_cases kept : (ability.group, ability.model) ∈ channel.abilityPairs
  · rw [if_pos kept, Option.some.injEq]
    exact ⟨fun same => ⟨kept, same.symm⟩, fun both => both.2.symm⟩
  · rw [if_neg kept]
    constructor
    · exact fun contrary => nomatch contrary
    · exact fun both => absurd both.1 kept

/-- Tables in step mirror each other exactly if the names of every channel are
separable. -/
theorem mirrors_iff_separable {tables : RoutingTables} (reflects : tables.Reflects) :
    tables.Mirrors ↔ ∀ channel ∈ tables.channels.rows, Separable channel.names := by
  constructor
  · intro mirrors channel stored
    apply (separable_iff channel.toRoutingColumns).mpr
    intro pair listed
    obtain ⟨groupListed, modelListed⟩ := (mem_namePairs channel.models channel.group pair).mp listed
    have present := (mirrors (channel.ability pair.1 pair.2)).mpr
      ⟨channel, stored, pair.1, groupListed, pair.2, modelListed, rfl⟩
    obtain ⟨owner, ownerStored, kept⟩ := (reflects.mem_iff _).mp present
    have sameOwner : owner = channel :=
      List.inj_on_of_nodup_map tables.channels.unique ownerStored stored
        (abilityFor_channelId kept).1.symm
    rw [sameOwner] at kept
    exact ((abilityFor_eq_some_iff channel _).mp kept).1
  · intro separable ability
    rw [reflects.mem_iff]
    constructor
    · rintro ⟨channel, stored, kept⟩
      obtain ⟨pairKept, same⟩ := (abilityFor_eq_some_iff channel ability).mp kept
      obtain ⟨groupListed, modelListed⟩ :=
        (mem_namePairs channel.models channel.group _).mp (mem_namePairs_of_abilityPairs pairKept)
      exact ⟨channel, stored, _, groupListed, _, modelListed, same⟩
    · rintro ⟨channel, stored, group, groupListed, model, modelListed, rfl⟩
      refine ⟨channel, stored, (abilityFor_eq_some_iff channel _).mpr ⟨?_, rfl⟩⟩
      exact (separable_iff channel.toRoutingColumns).mp (separable channel stored) (group, model)
        ((mem_namePairs channel.models channel.group _).mpr ⟨groupListed, modelListed⟩)

section Runs

variable [JsonCodec]

def WritesSeparable (tables : RoutingTables) (call : Call) : Prop :=
  ∀ names ∈ namesWritten tables call, Separable names

def Separated (tables : RoutingTables) : Prop :=
  tables.Reflects ∧ ∀ id row, tables.channels.lookup id = some row → Separable row.names

theorem step_separated (tables : RoutingTables) (call : Call)
    (writes : WritesSeparable tables call) (before : tables.Separated) :
    (step tables call).Separated := by
  have maintained := step_maintains tables call
  refine ⟨maintained.reflects before.1, ?_⟩
  intro id row found
  rcases maintained.names id row found with ⟨old, located, same⟩ | written
  · rw [same]
    exact before.2 id old located
  · exact writes row.names written

/-- From an empty database, calls that store separable names leave abilities
that mirror the channels. -/
theorem abilities_mirror_channels (calls : List Call)
    (separable : GuardedRun step WritesSeparable RoutingTables.empty calls) :
    (execute step RoutingTables.empty calls).Mirrors := by
  have start : RoutingTables.empty.Separated :=
    ⟨reflects_empty, fun id row found => by simp [RoutingTables.empty] at found⟩
  have reached : (execute step RoutingTables.empty calls).Separated :=
    GuardedRun.invariant (fun tables call => step_separated tables call) separable start
  apply (mirrors_iff_separable reached.1).mpr
  intro channel stored
  exact reached.2 channel.id channel (KeyedTable.lookup_eq_some_iff.mpr ⟨stored, rfl⟩)

end Runs

@[reducible]
def linesOnly : JsonCodec where
  unmarshalArray := fun _ => none
  encoded_compact := by simp

def newChannel (group models : String) : Channel where
  models := models
  group := group
  priority := none
  weight := none
  tag := none
  id := 1
  key := "sk-1"
  status := channelStatusEnabled
  otherInfo := ⟨none, none⟩
  channelInfo := ⟨false, 0, ∅, ∅, ∅, 0, .random⟩

theorem abilities_mirror_two_groups :
    GuardedRun (@step linesOnly) (@WritesSeparable linesOnly)
        RoutingTables.empty [⟨.insert (newChannel "vip,default" "a,b"), 0⟩] ∧
      (execute (@step linesOnly) RoutingTables.empty
        [⟨.insert (newChannel "vip,default" "a,b"), 0⟩]).Mirrors := by
  have separable : GuardedRun (@step linesOnly) (@WritesSeparable linesOnly)
      RoutingTables.empty [⟨.insert (newChannel "vip,default" "a,b"), 0⟩] := by
    refine ⟨?_, trivial⟩
    have apart : Separable
        (withColumnDefaults (normalizeNames (newChannel "vip,default" "a,b"))).names := by
      decide +kernel
    intro names written
    rw [List.mem_singleton.mp written]
    exact apart
  exact ⟨separable, @abilities_mirror_channels linesOnly _ separable⟩

/-- The pairs of group "a|b" with model "c" and of group "a" with model "b|c"
meet, and the second one gets no ability. -/
theorem ability_lost :
    ¬ (execute (@step linesOnly) RoutingTables.empty
      [⟨.insert (newChannel "a|b,a" "c,b|c"), 0⟩]).Mirrors := by
  intro mirrors
  let stored := withColumnDefaults (normalizeNames (newChannel "a|b,a" "c,b|c"))
  have rows : (execute (@step linesOnly) RoutingTables.empty
      [⟨.insert (newChannel "a|b,a" "c,b|c"), 0⟩]).channels.rows = [stored] :=
    rfl
  have missing : stored.ability "a" "b|c" ∉
      (execute (@step linesOnly) RoutingTables.empty
        [⟨.insert (newChannel "a|b,a" "c,b|c"), 0⟩]).abilities.rows := by
    decide +kernel
  apply missing
  apply (mirrors (stored.ability "a" "b|c")).mpr
  refine ⟨stored, ?_, "a", ?_, "b|c", ?_, rfl⟩
  · exact List.mem_singleton_self stored
  · decide +kernel
  · decide +kernel

end RoutingTables

end NewApi.Channels
