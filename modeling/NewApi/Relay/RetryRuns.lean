import NewApi.Relay.RetryRounds

/-!
# Runs of the retry loop

No round repeats a request, each round uses up a channel or a key, and so the
loop ends.
-/

namespace NewApi.Relay

open GoStrings NewApi.Channels

namespace RetryLoop

section Runs

variable [JsonCodec] [HostSort]

def Round.loop : Round → RetryLoop
  | .again loop => loop
  | .ended loop => loop

/-- The sends stay good, and the loop ends within its budget. -/
theorem relay_spec {settings : RelaySettings} {ids : Finset Nat} (turns : List Turn) :
    ∀ {loop : RetryLoop}, Inv settings ids loop →
      Good settings (relay settings loop turns).loop ∧
        (loop.tries ids < turns.length → ∃ final, relay settings loop turns = .ended final) := by
  induction turns with
  | nil =>
    intro loop inv
    exact ⟨inv.good, fun contrary => absurd contrary (Nat.not_lt_zero _)⟩
  | cons turn turns ih =>
    intro loop inv
    have advances := round_advances inv turn
    unfold relay
    cases outcome : round settings loop turn with
    | ended final => exact ⟨advances.ended final outcome, fun _ => ⟨final, rfl⟩⟩
    | again next =>
      obtain ⟨nextInv, fewer⟩ := advances.again next outcome
      obtain ⟨good, ends⟩ := ih nextInv
      refine ⟨good, fun enough => ends ?_⟩
      rw [List.length_cons] at enough
      omega

/-- The distributor has selected a channel that the first round takes. -/
def HasPreselected (loop : RetryLoop) : Prop :=
  loop.channelMeta = false ∧ loop.channelId ≠ 0 ∧ loop.channelId ∉ loop.failedChannelIds

structure Started (loop : RetryLoop) : Prop where
  /-- Ids of channels start from 1. -/
  positive : loop.state.tables.channels.lookup 0 = none
  retry : loop.retry = 0
  hold : loop.hold = none
  useChannel : loop.useChannel = []
  sent : loop.sent = []
  reported : loop.reported = []
  /-- The distributor has set its channel up. -/
  distributed : loop.HasPreselected →
    (loop.state.tables.channels.lookup loop.channelId).isSome = true ∧
      (loop.channelIsMultiKey = true → GoodKey loop.channelKey)

/-- The auto groups that the loop can go on to do not have the selected
channel's group among them.  Without a budget it goes nowhere. -/
def StartsInPlace (settings : RelaySettings) (loop : RetryLoop) : Prop :=
  loop.HasPreselected → 0 < settings.retryTimes →
    loop.selectedGroup ∉ groupsAhead settings loop

def storedIds (loop : RetryLoop) : Finset Nat :=
  (loop.state.tables.channels.rows.map (·.id)).toFinset

omit [JsonCodec] [HostSort] in
theorem mem_storedIds (loop : RetryLoop) (id : Nat) :
    (loop.state.tables.channels.lookup id).isSome = true ↔ id ∈ loop.storedIds := by
  unfold storedIds
  rw [List.mem_toFinset, List.mem_map, Option.isSome_iff_exists]
  constructor
  · rintro ⟨row, located⟩
    exact ⟨row, KeyedTable.lookup_eq_some_iff.mp located⟩
  · rintro ⟨row, found⟩
    exact ⟨row, KeyedTable.lookup_eq_some_iff.mpr found⟩

omit [HostSort] in
theorem Started.inv {settings : RelaySettings} {loop : RetryLoop} (started : loop.Started)
    (inPlace : StartsInPlace settings loop) :
    Inv settings loop.storedIds loop := by
  have unused : ∀ group, loop.groupChannels group = ∅ := by
    intro group
    unfold groupChannels
    rw [started.useChannel]
    rfl
  constructor
  · exact mem_storedIds loop
  · intro listed
    have stored := (mem_storedIds loop 0).mpr listed
    rw [started.positive] at stored
    cases stored
  · constructor
    · rw [started.sent]
      exact List.nodup_nil
    · intro channel
      unfold sentTo
      rw [started.sent]
      exact Nat.zero_le _
    · intro pair listed
      rw [started.sent] at listed
      cases listed
    · intro pair listed
      rw [started.reported] at listed
      cases listed
  · constructor
    · rw [started.retry]
      exact Nat.zero_le _
    · intro group
      rw [unused]
      exact Nat.zero_le _
    · intro group _
      rw [unused]
      exact Nat.zero_le _
    · exact fun _ group _ => unused group
    · exact fun _ _ => started.useChannel
  · intro hold held
    rw [started.hold] at held
    cases held
  · intro _ noMeta named unfailed
    obtain ⟨stored, key⟩ := started.distributed ⟨noMeta, named, unfailed⟩
    exact
      { stored := stored
        key := key
        unused := started.useChannel
        behind := inPlace ⟨noMeta, named, unfailed⟩ }

/-- The retry loop of a request ends, within three rounds for each channel, and
in every state on the way no channel and key were sent to twice, at most three
keys of a channel were tried and at most `RetryTimes + 1` channels of a group. -/
theorem relay_terminates_without_repeats
    {settings : RelaySettings} {loop : RetryLoop} (started : loop.Started)
    (inPlace : StartsInPlace settings loop) (turns : List Turn) :
    Good settings (relay settings loop turns).loop ∧
      (maxMultiKeyFailuresBeforeFailover * loop.state.tables.channels.rows.length < turns.length →
        ∃ final, relay settings loop turns = .ended final) := by
  have inv := started.inv inPlace
  obtain ⟨good, ends⟩ := relay_spec turns inv
  refine ⟨good, fun enough => ends ?_⟩
  have unfailed : (loop.storedIds \ loop.failedChannelIds.toFinset).card ≤
      loop.storedIds.card := Finset.card_le_card Finset.sdiff_subset
  have ids : loop.storedIds.card ≤ loop.state.tables.channels.rows.length := by
    have few := List.toFinset_card_le (loop.state.tables.channels.rows.map (·.id))
    rw [List.length_map] at few
    exact few
  unfold tries
  unfold maxMultiKeyFailuresBeforeFailover at enough ⊢
  omega

end Runs

def threeChannels : RoutingState where
  tables := @RoutingTables.step RoutingTables.linesOnly RoutingTables.empty
    ⟨.batchInsertChannels
      [RoutingTables.newChannel "b" "m",
        { RoutingTables.newChannel "b" "m" with id := 2 },
        { RoutingTables.newChannel "b" "m" with id := 3 }], 0⟩
  routes := fun _ => ⟨1, none⟩

def oneRetry : RelaySettings where
  retryTimes := 1
  tokenGroup := .auto ⟨["a", "b"], by decide⟩ true
  modelName := "m"
  requestPath := ""
  channelFilter := none
  memoryCacheEnabled := false

def onFirstChannel (autoGroupIndex : Option Nat) : RetryLoop where
  state := threeChannels
  failedChannelIds := []
  retry := 0
  autoGroupIndex := autoGroupIndex
  selectedGroup := "b"
  hold := none
  channelMeta := false
  channelId := 1
  channelKey := "sk-1"
  channelIsMultiKey := false
  useChannel := []
  sent := []
  reported := []

def failingTurn : Turn where
  beforeChoice := []
  rolls := fun _ => 0
  beforeKey := []
  setupError := none
  keyRoll := 0
  keyError := ⟨true, true⟩
  prepared := true
  reachesMeta := true
  reply := some ⟨true, true⟩
  beforeRecord := []

@[reducible]
def insertionOrder : HostSort where
  sortBy := fun before items => items.insertionSort fun left right => !before right left
  perm := fun _ items => List.perm_insertionSort _ items

theorem onFirstChannel_started (autoGroupIndex : Option Nat) :
    (onFirstChannel autoGroupIndex).Started where
  positive := by
    change threeChannels.tables.channels.lookup 0 = none
    decide +kernel
  retry := rfl
  hold := rfl
  useChannel := rfl
  sent := rfl
  reported := rfl
  distributed := by
    intro _
    change (threeChannels.tables.channels.lookup 1).isSome = true ∧ (false = true → GoodKey "sk-1")
    exact ⟨by decide +kernel, nofun⟩

theorem relay_terminates_from_second_group :
    (onFirstChannel (some 1)).Started ∧ StartsInPlace oneRetry (onFirstChannel (some 1)) ∧
      Good oneRetry (@relay RoutingTables.linesOnly insertionOrder oneRetry
        (onFirstChannel (some 1)) (List.replicate 10 failingTurn)).loop ∧
      ∃ final, @relay RoutingTables.linesOnly insertionOrder oneRetry
        (onFirstChannel (some 1)) (List.replicate 10 failingTurn) = .ended final := by
  have started := onFirstChannel_started (some 1)
  have inPlace : StartsInPlace oneRetry (onFirstChannel (some 1)) := fun _ _ => by decide
  obtain ⟨good, ends⟩ := @relay_terminates_without_repeats
    RoutingTables.linesOnly insertionOrder oneRetry (onFirstChannel (some 1))
    started inPlace (List.replicate 10 failingTurn)
  exact ⟨started, inPlace, good, ends (by decide +kernel)⟩

/-- The affinity selects channel 1 of the second auto group and leaves no group
index.  The loop gives it up, goes on from the first group, and then has the
whole budget again for channels 2 and 3 of the second. -/
theorem affinity_exceeds_group_budget : (onFirstChannel none).Started ∧
      ¬ Good oneRetry (@relay RoutingTables.linesOnly insertionOrder oneRetry
        (onFirstChannel none) (List.replicate 3 failingTurn)).loop := by
  refine ⟨onFirstChannel_started none, fun good => ?_⟩
  have three : ((@relay RoutingTables.linesOnly insertionOrder oneRetry
      (onFirstChannel none) (List.replicate 3 failingTurn)).loop.groupChannels "b").card = 3 := by
    decide +kernel
  have two : oneRetry.retryTimes + 1 = 2 := rfl
  have bounded := good.channels "b"
  omega

end RetryLoop

end NewApi.Relay
