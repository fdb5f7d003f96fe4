import Mathlib.Data.Finset.Card
import NewApi.Channels.SelectionSound
import NewApi.Relay.RetryKeys

/-!
# The budget of a group

The retry counter is the number of channels that the request has given up in
the group where it is.  Going on to the next auto group starts the counter
again, and no group is visited twice.
-/

namespace NewApi.Relay

open GoStrings NewApi.Channels

namespace RetryLoop

def groupChannels (loop : RetryLoop) (group : String) : Finset Nat :=
  ((loop.useChannel.filter (·.1 = group)).map Prod.snd).toFinset

theorem groupChannels_addUsedChannel (loop : RetryLoop) (id : Nat) (group : String) :
    (loop.addUsedChannel id).groupChannels group =
      if group = loop.selectedGroup then insert id (loop.groupChannels group)
      else loop.groupChannels group := by
  unfold groupChannels addUsedChannel
  rw [List.filter_append]
  by_cases same : group = loop.selectedGroup
  · rw [if_pos same, List.filter_cons_of_pos (by simpa using same.symm),
      List.filter_nil, List.map_append, List.toFinset_append]
    simp [Finset.union_comm]
  · rw [if_neg same, List.filter_cons_of_neg (by simpa using Ne.symm same),
      List.filter_nil, List.append_nil]

variable {loop : RetryLoop}

theorem groupChannels_addUsedChannel_of_mem {id : Nat}
    (used : (loop.selectedGroup, id) ∈ loop.useChannel) (group : String) :
    (loop.addUsedChannel id).groupChannels group = loop.groupChannels group := by
  rw [groupChannels_addUsedChannel]
  split
  · rename_i same
    apply Finset.insert_eq_of_mem
    unfold groupChannels
    rw [List.mem_toFinset]
    refine List.mem_map.mpr ⟨_, List.mem_filter.mpr ⟨used, ?_⟩, rfl⟩
    exact decide_eq_true same.symm
  · rfl

def currentGroup (settings : RelaySettings) (loop : RetryLoop) :
    Option String :=
  match settings.tokenGroup with
  | .named group => some group
  | .auto groups _ => groups.names[loop.autoGroupIndex.getD 0]?

/-- The groups that the loop can still go on to. -/
def groupsAhead (settings : RelaySettings) (loop : RetryLoop) : List String :=
  match settings.tokenGroup with
  | .named _ => []
  | .auto groups crossGroupRetry =>
    if crossGroupRetry then groups.names.drop (loop.autoGroupIndex.getD 0 + 1) else []

/-- The channels tried in each group while `pending` ones of the current group
are not yet given up. -/
structure Spent (settings : RelaySettings) (loop : RetryLoop) (pending : Nat) :
    Prop where
  retry : loop.retry ≤ settings.retryTimes
  bounded : ∀ group, (loop.groupChannels group).card ≤ settings.retryTimes + 1
  current : ∀ group, currentGroup settings loop = some group →
    (loop.groupChannels group).card ≤ loop.retry + pending
  ahead : 0 < settings.retryTimes →
    ∀ group ∈ groupsAhead settings loop, loop.groupChannels group = ∅
  /-- Without a budget there is no second channel. -/
  idle : settings.retryTimes = 0 → pending = 0 → loop.useChannel = []

def pendingChannels (loop : RetryLoop) : Nat := if loop.hold.isSome then 1 else 0

variable {settings : RelaySettings}

/-- A channel of the current group, or of a group that is not ahead while
nothing was used. -/
theorem Spent.use (spent : Spent settings loop 0) (id : Nat)
    (behind : 0 < settings.retryTimes → loop.selectedGroup ∉ groupsAhead settings loop)
    (place : currentGroup settings loop = some loop.selectedGroup ∨ loop.useChannel = []) :
    Spent settings (loop.addUsedChannel id) 1 := by
  have grown : ∀ group, ((loop.addUsedChannel id).groupChannels group).card ≤
      (loop.groupChannels group).card + 1 := by
    intro group
    rw [groupChannels_addUsedChannel]
    split
    · exact Finset.card_insert_le _ _
    · omega
  constructor
  · exact spent.retry
  · intro group
    rcases place with here | unused
    · rw [groupChannels_addUsedChannel]
      split
      · rename_i same
        have few := spent.current loop.selectedGroup here
        have inserted := Finset.card_insert_le id (loop.groupChannels group)
        have counter := spent.retry
        rw [same] at inserted ⊢
        omega
      · exact spent.bounded group
    · have none : (loop.groupChannels group).card = 0 := by
        unfold groupChannels
        rw [unused]
        rfl
      have few := grown group
      omega
  · intro group here
    have few := spent.current group here
    have more := grown group
    have same : (loop.addUsedChannel id).retry = loop.retry := rfl
    omega
  · intro budget group listed
    rw [groupChannels_addUsedChannel]
    have different : group ≠ loop.selectedGroup := by
      intro same
      exact behind budget (same ▸ listed)
    rw [if_neg different]
    exact spent.ahead budget group listed
  · nofun

section

variable {groups : AutoGroups} {crossGroupRetry : Bool} {index : Nat}
  (auto : settings.tokenGroup = .auto groups crossGroupRetry)
  (here : loop.autoGroupIndex.getD 0 = index)
include auto here

/-- An auto group whose channels are used up gives way to the next one. -/
theorem Spent.advance (spent : Spent settings loop 0)
    (allowed : crossGroupRetry = true ∨ groups.names.drop (index + 1) = []) :
    Spent settings { loop with autoGroupIndex := some (index + 1), retry := 0 } 0 := by
  have ahead : ∀ group ∈ groups.names.drop (index + 1), loop.groupChannels group = ∅ := by
    intro group listed
    rcases Nat.eq_zero_or_pos settings.retryTimes with none | budget
    · unfold groupChannels
      rw [spent.idle none rfl]
      rfl
    apply spent.ahead budget
    unfold groupsAhead
    rw [auto, here]
    rcases allowed with crosses | last
    · simpa [crosses] using listed
    · rw [last] at listed
      cases listed
  constructor
  · exact Nat.zero_le _
  · exact spent.bounded
  · intro group next
    unfold currentGroup at next
    rw [auto] at next
    have listed : group ∈ groups.names.drop (index + 1) := by
      have position : groups.names[index + 1]? = some group := next
      rw [← Nat.add_zero (index + 1), ← List.getElem?_drop] at position
      exact List.mem_of_getElem? position
    have none : loop.groupChannels group = ∅ := ahead group listed
    have same : groupChannels
        { loop with autoGroupIndex := some (index + 1), retry := 0 } group =
          loop.groupChannels group := rfl
    rw [same, none]
    exact Nat.zero_le _
  · intro _ group listed
    unfold groupsAhead at listed
    rw [auto] at listed
    have later : group ∈ groups.names.drop (index + 1 + 1) := by
      dsimp only at listed
      split at listed
      · exact listed
      · cases listed
    apply ahead
    rw [← List.drop_drop] at later
    exact List.mem_of_mem_drop later
  · exact spent.idle

theorem Spent.found {group : String} (position : groups.names[index]? = some group)
    (spent : Spent settings loop 0) (id : Nat) :
    Spent settings
      (addUsedChannel { loop with autoGroupIndex := some index, selectedGroup := group } id)
      1 := by
  have sameCurrent : currentGroup settings
      { loop with autoGroupIndex := some index, selectedGroup := group } =
        currentGroup settings loop := by
    unfold currentGroup
    rw [auto, here]
    rfl
  have sameAhead : groupsAhead settings
      { loop with autoGroupIndex := some index, selectedGroup := group } =
        groupsAhead settings loop := by
    unfold groupsAhead
    rw [auto, here]
    rfl
  have placed : Spent settings
      { loop with autoGroupIndex := some index, selectedGroup := group } 0 :=
    { retry := spent.retry
      bounded := spent.bounded
      current := by
        rw [sameCurrent]
        exact spent.current
      ahead := by
        rw [sameAhead]
        exact spent.ahead
      idle := spent.idle }
  apply placed.use
  · rw [sameAhead]
    unfold groupsAhead
    rw [auto, here]
    intro _ listed
    dsimp only at listed
    split at listed
    case isFalse => cases listed
    obtain ⟨offset, later⟩ := List.mem_iff_getElem?.mp listed
    rw [List.getElem?_drop] at later
    have again := (List.getElem?_inj (List.getElem?_eq_some_iff.mp position).1
      groups.distinct).mp (position.trans later.symm)
    omega
  · left
    rw [sameCurrent]
    unfold currentGroup
    rw [auto, here]
    exact position

end

def moved (loop : RetryLoop) (retry : Nat) (autoGroupIndex : Option Nat)
    (selectedGroup : String) : RetryLoop :=
  { loop with
    retry := retry
    autoGroupIndex := autoGroupIndex
    selectedGroup := selectedGroup }

structure Selects (settings : RelaySettings) (loop : RetryLoop)
    (result : RetryLoop × Selection) : Prop where
  moved : ∃ retry index group, result.1 = loop.moved retry index group
  channel : ∀ channel, result.2 = .channel channel →
    channel ∈ loop.state.channels ∧ channel.id ∉ loop.failedChannelIds ∧
      Spent settings (result.1.addUsedChannel channel.id) 1

section Choice

variable [HostSort]

variable {settings : RelaySettings}

theorem pick_unfailed {loop : RetryLoop} {group : String}
    {priorityRetry roll : Nat} {channel : RoutedChannel}
    (chosen : pick settings loop group priorityRetry roll = .ok (some channel)) :
    channel ∈ loop.state.channels ∧ channel.id ∉ loop.failedChannelIds := by
  obtain ⟨stored, included⟩ := pick_sound chosen
  refine ⟨stored, fun failed => included ?_⟩
  exact List.mem_map.mpr ⟨channel.id, failed, rfl⟩

theorem searchGroups_selects {groups : AutoGroups} {crossGroupRetry : Bool}
    (auto : settings.tokenGroup = .auto groups crossGroupRetry)
    (rolls : Nat → Nat) (rest : List String) :
    ∀ {loop : RetryLoop} {index : Nat}, groups.names.drop index = rest →
      loop.autoGroupIndex.getD 0 = index → Spent settings loop 0 →
      Selects settings loop (searchGroups settings crossGroupRetry rolls loop index rest) := by
  induction rest with
  | nil =>
    intro loop index _ _ _
    exact ⟨⟨loop.retry, loop.autoGroupIndex, loop.selectedGroup, rfl⟩,
      fun _ contrary => nomatch contrary⟩
  | cons group rest ih =>
    intro loop index remaining here spent
    have position : groups.names[index]? = some group := by
      rw [← Nat.add_zero index, ← List.getElem?_drop, remaining]
      rfl
    have later : groups.names.drop (index + 1) = rest := by
      rw [← List.drop_drop, remaining]
      rfl
    have unmoved : Selects settings loop (loop, .error) :=
      ⟨⟨loop.retry, loop.autoGroupIndex, loop.selectedGroup, rfl⟩,
        fun _ contrary => nomatch contrary⟩
    unfold searchGroups
    split
    · exact unmoved
    · rename_i channel chosen
      obtain ⟨stored, unfailed⟩ := pick_unfailed chosen
      refine ⟨⟨loop.retry, some index, group, rfl⟩, ?_⟩
      intro other same
      cases same
      exact ⟨stored, unfailed, spent.found auto here position channel.id⟩
    · split
      · exact unmoved
      · rename_i goesOn
        have allowed : crossGroupRetry = true ∨ groups.names.drop (index + 1) = [] := by
          rw [later]
          by_cases last : rest = []
          · exact Or.inr last
          · exact Or.inl (by simpa [last] using goesOn)
        have rest := ih later rfl (spent.advance auto here allowed)
        obtain ⟨⟨retry, next, selected, after⟩, found⟩ := rest
        exact ⟨⟨retry, next, selected, after⟩, found⟩

theorem cacheGetRandomSatisfiedChannel_selects {loop : RetryLoop}
    (spent : Spent settings loop 0) (rolls : Nat → Nat) :
    Selects settings loop (cacheGetRandomSatisfiedChannel settings loop rolls) := by
  have unmoved : ∀ {selection : Selection},
      (∀ channel, selection ≠ .channel channel) → Selects settings loop (loop, selection) := by
    intro selection nobody
    exact ⟨⟨loop.retry, loop.autoGroupIndex, loop.selectedGroup, rfl⟩,
      fun channel same => absurd same (nobody channel)⟩
  unfold cacheGetRandomSatisfiedChannel
  split
  · rename_i groups crossGroupRetry auto
    split
    · exact unmoved fun _ contrary => nomatch contrary
    · exact searchGroups_selects auto rolls _ rfl rfl spent
  · rename_i group named
    split
    · exact unmoved fun _ contrary => nomatch contrary
    · exact unmoved fun _ contrary => nomatch contrary
    · rename_i channel chosen
      obtain ⟨stored, unfailed⟩ := pick_unfailed chosen
      refine ⟨⟨loop.retry, loop.autoGroupIndex, group, rfl⟩, ?_⟩
      intro other same
      cases same
      refine ⟨stored, unfailed, ?_⟩
      have sameCurrent : ∀ loop : RetryLoop, currentGroup settings loop = some group := by
        intro loop
        unfold currentGroup
        rw [named]
      have noneAhead : ∀ loop : RetryLoop, groupsAhead settings loop = [] := by
        intro loop
        unfold groupsAhead
        rw [named]
      have placed : Spent settings { loop with selectedGroup := group } 0 :=
        { retry := spent.retry
          bounded := spent.bounded
          current := fun other here => spent.current other
            ((sameCurrent loop).trans ((sameCurrent _).symm.trans here))
          ahead := fun _ other listed => by
            rw [noneAhead] at listed
            cases listed
          idle := spent.idle }
      apply placed.use
      · rw [noneAhead]
        exact fun _ => List.not_mem_nil
      · exact Or.inl (sameCurrent _)

end Choice

end RetryLoop

end NewApi.Relay
