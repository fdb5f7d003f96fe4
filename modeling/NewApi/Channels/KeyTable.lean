import NewApi.Channels.AbilityRows
import NewApi.Channels.KeyText

/-!
# Keys with their states

A channel stores the states of its keys by index.  `keyTable` attaches each
state to its key; the operations on keys are then operations on this list that
know no indexes but their own argument.
-/

namespace NewApi.Channels

open GoStrings AList Reindexed ChannelInfo RoutingTables

inductive KeyState where
  | enabled
  | disabled (status : Int) (reason : Option String) (time : Option Int)
deriving DecidableEq

def keyStateOf (status : IndexMap Int) (reason : IndexMap String) (time : IndexMap Int)
    (index : Nat) : KeyState :=
  if multiKeyStatus status index = channelStatusEnabled then .enabled
  else
    .disabled (multiKeyStatus status index) (reason.lookup index) (time.lookup index)

def ChannelInfo.keyState (info : ChannelInfo) (index : Nat) : KeyState :=
  keyStateOf info.multiKeyStatusList info.multiKeyDisabledReason info.multiKeyDisabledTime index

def keyEntries (state : Nat → KeyState) (start : Nat) (keys : List String) :
    List (String × KeyState) :=
  keys.mapIdx fun offset key => (key, state (start + offset))

theorem keyEntries_cons (state : Nat → KeyState) (start : Nat) (key : String) (keys : List String) :
    keyEntries state start (key :: keys) =
      (key, state start) :: keyEntries state (start + 1) keys := by
  unfold keyEntries
  simp [Nat.add_comm, Nat.add_left_comm]

theorem map_fst_keyEntries (state : Nat → KeyState) (keys : List String) :
    ∀ start : Nat, (keyEntries state start keys).map Prod.fst = keys := by
  induction keys with
  | nil => exact fun _ => rfl
  | cons key keys ih =>
    intro start
    rw [keyEntries_cons, List.map_cons, ih]

theorem keyEntries_congr {left right : Nat → KeyState} (keys : List String) :
    ∀ {start : Nat},
      (∀ index, start ≤ index → index < start + keys.length → left index = right index) →
      keyEntries left start keys = keyEntries right start keys := by
  induction keys with
  | nil => exact fun _ => rfl
  | cons key keys ih =>
    intro start agree
    rw [keyEntries_cons, keyEntries_cons, agree start (Nat.le_refl start) (by simp)]
    congr 1
    apply ih
    intro index above below
    exact agree index (by omega) (by simp only [List.length_cons]; omega)

theorem keyEntries_modify {old new : Nat → KeyState} {index : Nat} {state : KeyState}
    (changed : new index = state)
    (others : ∀ other, other ≠ index → new other = old other) (keys : List String) :
    keyEntries new 0 keys = (keyEntries old 0 keys).modify index fun entry => (entry.1, state) := by
  apply List.ext_getElem
  · simp [keyEntries]
  · intro position left right
    simp only [keyEntries, List.getElem_mapIdx, List.getElem_modify, Nat.zero_add]
    by_cases same : index = position
    · have sameState : new position = state := same ▸ changed
      rw [if_pos same, sameState]
    · rw [if_neg same, others position (Ne.symm same)]

theorem findIdx_keyEntries (state : Nat → KeyState) (usingKey : String) (keys : List String) :
    ∀ start : Nat,
      (keyEntries state start keys).findIdx? (fun entry => trimSpace entry.1 = trimSpace usingKey) =
        keyIndexOf keys usingKey := by
  induction keys with
  | nil => exact fun _ => rfl
  | cons key keys ih =>
    intro start
    unfold keyIndexOf at ih ⊢
    rw [keyEntries_cons, List.findIdx?_cons, List.findIdx?_cons, ih]

theorem lookup_eraseAll {α : Type} (indexes : List Nat) :
    ∀ (map : IndexMap α) (index : Nat),
      (indexes.foldl (fun map index => map.erase index) map).lookup index =
        if index ∈ indexes then none else map.lookup index := by
  induction indexes with
  | nil => simp
  | cons first indexes ih =>
    intro map index
    rw [List.foldl_cons, ih]
    by_cases same : index = first
    · rw [same, lookup_erase]
      simp
    · simp [same]

theorem lookup_mergePatch
    {α : Type} (patch stored : IndexMap α) (cleared : List Nat) (index : Nat) :
    (mergePatch patch stored cleared).lookup index =
      if index ∈ cleared then none
      else (patch.lookup index).or (stored.lookup index) := by
  unfold mergePatch
  rw [lookup_eraseAll]
  by_cases member : index ∈ patch
  · rw [lookup_union_left member]
    have found : (patch.lookup index).isSome = true := lookup_isSome.mpr member
    rw [Option.or_of_isSome found]
  · have missing : patch.lookup index = none := lookup_eq_none.mpr member
    rw [lookup_union_right member, missing, Option.none_or]

theorem lookup_singleton {α : Type} (index other : Nat) (value : α) :
    (AList.singleton index value : IndexMap α).lookup other =
      if other = index then some value else none := by
  rw [← insert_empty]
  by_cases same : other = index
  · rw [if_pos same, same, lookup_insert]
  · rw [if_neg same, lookup_insert_ne same, lookup_empty]

/-! ## Reindexing -/

def Reindexed.entries (kept : Reindexed) : List (String × KeyState) :=
  keyEntries (keyStateOf kept.newStatus kept.newReason kept.newTime) 0 kept.remaining

structure Reindexed.Fresh (kept : Reindexed) : Prop where
  status : ∀ index, kept.remaining.length ≤ index → kept.newStatus.lookup index = none
  time : ∀ index, kept.remaining.length ≤ index → kept.newTime.lookup index = none
  reason : ∀ index, kept.remaining.length ≤ index → kept.newReason.lookup index = none

theorem lookup_carryOver {α : Type} (map : IndexMap α) (next : Nat) (value : Option α)
    (index : Nat) :
    (carryOver map next value).lookup index =
      if index = next then value.or (map.lookup index) else map.lookup index := by
  cases value with
  | none => simp [carryOver]
  | some value =>
    unfold carryOver
    by_cases same : index = next
    · rw [if_pos same, same, lookup_insert, Option.some_or]
    · rw [if_neg same, lookup_insert_ne same]

theorem keyEntries_append {old new : Nat → KeyState} {keys : List String} {key : String}
    {state : KeyState} (kept : ∀ index, index < keys.length → new index = old index)
    (added : new keys.length = state) :
    keyEntries new 0 (keys ++ [key]) = keyEntries old 0 keys ++ [(key, state)] := by
  have before : keyEntries new 0 keys = keyEntries old 0 keys := by
    apply keyEntries_congr
    intro index _ below
    exact kept index (by omega)
  rw [← before, ← added]
  unfold keyEntries
  simp

theorem filter_multiKeyStatus (status : IndexMap Int) (index : Nat) :
    ((status.lookup index).filter (· ≠ channelStatusEnabled)).getD
        channelStatusEnabled = multiKeyStatus status index := by
  unfold multiKeyStatus
  cases status.lookup index with
  | none => rfl
  | some value =>
    by_cases enabled : value = channelStatusEnabled
    · simp [Option.filter, enabled]
    · simp [Option.filter, enabled]

theorem keep_entries (info : ChannelInfo) {kept : Reindexed} (fresh : kept.Fresh) (key : String)
    (index : Nat) :
    (keep info kept key index).entries = kept.entries ++ [(key, info.keyState index)] ∧
      (keep info kept key index).Fresh := by
  have atEnd := Nat.le_refl kept.remaining.length
  constructor
  · apply keyEntries_append
    · intro other below
      have different : other ≠ kept.remaining.length := Nat.ne_of_lt below
      simp only [keyStateOf, multiKeyStatus, keep, lookup_carryOver, if_neg different]
      rfl
    · simp only [keyStateOf, multiKeyStatus, keep, lookup_carryOver,
        if_true, fresh.status _ atEnd, fresh.time _ atEnd, fresh.reason _ atEnd,
        Option.or_none, filter_multiKeyStatus, keyState]
      rfl
  · constructor
    all_goals
      intro other above
      have beyond : kept.remaining.length < other := by
        have longer : (kept.remaining ++ [key]).length ≤ other := above
        rw [List.length_append] at longer
        exact Nat.lt_of_succ_le longer
      have different : other ≠ kept.remaining.length := Nat.ne_of_gt beyond
      simp only [keep, lookup_carryOver, if_neg different]
    · exact fresh.status other (Nat.le_of_lt beyond)
    · exact fresh.time other (Nat.le_of_lt beyond)
    · exact fresh.reason other (Nat.le_of_lt beyond)

theorem keepDisabled_entries
    (info : ChannelInfo) {kept : Reindexed} (fresh : kept.Fresh) (key : String) (index : Nat) :
    (keepDisabled info kept key index).entries =
        kept.entries ++ [(key, info.keyState index)] ∧
      (keepDisabled info kept key index).Fresh := by
  unfold keepDisabled
  by_cases enabled : multiKeyStatus info.multiKeyStatusList index = channelStatusEnabled
  · rw [if_pos enabled]
    have state : info.keyState index = .enabled := by
      simp [keyState, keyStateOf, enabled]
    constructor
    · apply keyEntries_append
      · exact fun _ _ => rfl
      · rw [state]
        simp [keyStateOf, multiKeyStatus, fresh.status _ (Nat.le_refl kept.remaining.length)]
    · have beyond : ∀ other, (kept.remaining ++ [key]).length ≤ other →
          kept.remaining.length ≤ other := by
        intro other above
        rw [List.length_append] at above
        omega
      exact
        { status := fun other above => fresh.status other (beyond other above)
          time := fun other above => fresh.time other (beyond other above)
          reason := fun other above => fresh.reason other (beyond other above) }
  · rw [if_neg enabled]
    exact keep_entries info fresh key index

def survivors (state : Nat → KeyState) (removes : Nat → Bool) :
    Nat → List String → List (String × KeyState)
  | _, [] => []
  | start, key :: keys =>
    if removes start then survivors state removes (start + 1) keys
    else (key, state start) :: survivors state removes (start + 1) keys

theorem reindexKeys_entries (info : ChannelInfo) (removes : Nat → Bool)
    {keep : Reindexed → String → Nat → Reindexed}
    (keeps : ∀ kept : Reindexed, kept.Fresh → ∀ key index,
      (keep kept key index).entries = kept.entries ++ [(key, info.keyState index)] ∧
        (keep kept key index).Fresh)
    (keys : List String) :
    ∀ (kept : Reindexed) (start : Nat), kept.Fresh →
      (reindexKeys info removes keep kept start keys).entries =
        kept.entries ++ survivors info.keyState removes start keys := by
  induction keys with
  | nil =>
    intro kept start _
    simp [reindexKeys, survivors]
  | cons key keys ih =>
    intro kept start fresh
    unfold reindexKeys survivors
    by_cases removed : removes start = true
    · rw [if_pos removed, if_pos removed]
      exact ih kept (start + 1) fresh
    · obtain ⟨entries, nextFresh⟩ := keeps kept fresh key start
      rw [if_neg removed, if_neg removed, ih _ (start + 1) nextFresh, entries, List.append_assoc]
      rfl

theorem noKeys_fresh : noKeys.Fresh where
  status := fun _ _ => rfl
  time := fun _ _ => rfl
  reason := fun _ _ => rfl

theorem survivors_eraseIdx (state : Nat → KeyState) (index : Nat) (keys : List String) :
    ∀ start : Nat, start ≤ index →
      survivors state (fun other => other = index) start keys =
        (keyEntries state start keys).eraseIdx (index - start) := by
  have untouched : ∀ (keys : List String) (start : Nat), index < start →
      survivors state (fun other => other = index) start keys = keyEntries state start keys := by
    intro keys
    induction keys with
    | nil => exact fun _ _ => rfl
    | cons key keys ih =>
      intro start above
      have different : start ≠ index := Nat.ne_of_gt above
      unfold survivors
      rw [if_neg (by simpa using different), keyEntries_cons, ih (start + 1) (by omega)]
  induction keys with
  | nil => exact fun _ _ => by simp [survivors, keyEntries]
  | cons key keys ih =>
    intro start below
    unfold survivors
    rw [keyEntries_cons]
    by_cases same : start = index
    · rw [if_pos (by simpa using same), untouched keys (start + 1) (by omega),
        same, Nat.sub_self, List.eraseIdx_cons_zero]
    · have next : index - start = index - (start + 1) + 1 := by omega
      rw [if_neg (by simpa using same), ih (start + 1) (by omega), next, List.eraseIdx_cons_succ]

def KeyState.isAutoDisabled : KeyState → Bool
  | .enabled => false
  | .disabled status _ _ => status = channelStatusAutoDisabled

theorem isAutoDisabled_keyState (info : ChannelInfo) (index : Nat) :
    (info.keyState index).isAutoDisabled = isAutoDisabled info index := by
  unfold keyState keyStateOf isAutoDisabled
  by_cases enabled : multiKeyStatus info.multiKeyStatusList index = channelStatusEnabled
  · rw [if_pos enabled, enabled]
    decide
  · rw [if_neg enabled]
    rfl

theorem survivors_filter (info : ChannelInfo) (keys : List String) :
    ∀ start : Nat,
      survivors info.keyState (isAutoDisabled info) start keys =
        (keyEntries info.keyState start keys).filter fun entry => !entry.2.isAutoDisabled := by
  induction keys with
  | nil => exact fun _ => rfl
  | cons key keys ih =>
    intro start
    unfold survivors
    rw [keyEntries_cons, ← isAutoDisabled_keyState, ih]
    by_cases auto : (info.keyState start).isAutoDisabled = true
    · rw [if_pos auto, List.filter_cons_of_neg (by simp [auto])]
    · rw [if_neg auto, List.filter_cons_of_pos (by simpa using auto)]

end NewApi.Channels
