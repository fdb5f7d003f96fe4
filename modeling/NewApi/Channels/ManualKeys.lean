import NewApi.Channels.KeyStatuses

/-!
# Keys that an operator disabled

A late report of a failure writes its status over whatever is stored for the
key; the guard that keeps the disable of an operator looks at the channel
alone.  A run of reports and polls therefore keeps the manually disabled keys
as long as no report is about one of them.
-/

namespace NewApi.Channels

open GoStrings Transactions RoutingTables

def KeyState.isManuallyDisabled : KeyState → Bool
  | .enabled => false
  | .disabled status _ _ => status = channelStatusManuallyDisabled

theorem disableKey_leaves (info : ChannelInfo) {index other : Nat} (different : other ≠ index)
    (status : Int) (reason : String) (now : Int) :
    LeavesKey (info.disableKey index status reason now) info other where
  status := Or.inr (AList.lookup_insert_ne different)
  reason := Or.inr (AList.lookup_insert_ne different)
  time := Or.inr (AList.lookup_insert_ne different)

theorem limitStatusWrite_leaves (changed : Channel) {keyIndex : Option Nat} {stored : ChannelInfo}
    {index : Nat} (spared : keyIndex ≠ some index)
    (left : LeavesKey changed.channelInfo stored index) :
    LeavesKey (limitStatusWriteToMultiKey changed keyIndex
      channelStatusAutoDisabled).channel.channelInfo stored index := by
  cases keyIndex with
  | none => exact left
  | some touched =>
    have different : index ≠ touched := by
      rintro rfl
      exact spared rfl
    constructor
    all_goals
      left
      exact (lookup_singleton touched index _).trans (if_neg different)

/-- A row with the keys of an earlier one, whose manually disabled keys are
as they were. -/
structure KeepsManual (old new : Channel) : Prop where
  multiKey : new.channelInfo.isMultiKey = true
  key : new.key = old.key
  manual : ∀ index,
    (old.channelInfo.keyState index).isManuallyDisabled = true →
      new.channelInfo.keyState index = old.channelInfo.keyState index

theorem KeepsManual.trans {old middle new : Channel}
    (first : KeepsManual old middle) (second : KeepsManual middle new) :
    KeepsManual old new where
  multiKey := second.multiKey
  key := second.key.trans first.key
  manual := by
    intro index disabled
    have kept := first.manual index disabled
    rw [← kept] at disabled
    exact (second.manual index disabled).trans kept

section Reports

variable [JsonCodec]

variable {channel : Channel} {usingKey reason : String} {now : Int}

theorem handlerMultiKeyUpdate_leaves {index : Nat}
    (spared : keyIndexOf channel.getKeys usingKey ≠ some index) :
    LeavesKey (handlerMultiKeyUpdate channel usingKey channelStatusAutoDisabled
      reason now).channelInfo channel.channelInfo index := by
  have disables : channelStatusAutoDisabled ≠ channelStatusEnabled := by decide
  rw [(handlerMultiKeyUpdate_keys channel (Or.inr disables) reason now).2]
  cases located : keyIndexOf channel.getKeys usingKey with
  | none => exact leavesKey_refl _ _
  | some touched =>
    have different : index ≠ touched := by
      rintro rfl
      exact spared located
    exact disableKey_leaves _ different _ _ _

/-- What a report of a failure saves is merged, and leaves every key alone but
the one it is about. -/
theorem applyChannelStatusLocked_leaves
    {refreshReasonOnly : Bool} {snapshot : ChannelSnapshot} {follow : Bool}
    (multiKey : channel.channelInfo.isMultiKey = true)
    (applied : applyChannelStatusLocked channel usingKey
      channelStatusAutoDisabled reason refreshReasonOnly now = some (snapshot, follow)) :
    Merges snapshot ∧
      ∀ index, keyIndexOf channel.getKeys usingKey ≠ some index →
        LeavesKey snapshot.channel.channelInfo channel.channelInfo index := by
  have disables : channelStatusAutoDisabled ≠ channelStatusEnabled := by decide
  have keys : _ ∧ (handlerMultiKeyUpdate channel usingKey
      channelStatusAutoDisabled reason now).channelInfo = _ :=
    handlerMultiKeyUpdate_keys channel (Or.inr disables) reason now
  have sameKeys : (handlerMultiKeyUpdate channel usingKey
      channelStatusAutoDisabled reason now).getKeys = channel.getKeys := by
    unfold Channel.getKeys
    rw [keys.1]
  have kind : (handlerMultiKeyUpdate channel usingKey channelStatusAutoDisabled
      reason now).channelInfo.isMultiKey = true := by
    rw [keys.2]
    cases keyIndexOf channel.getKeys usingKey with
    | none | some index => exact multiKey
  have handled : ∀ {abilitiesFollow : Bool},
      some (prepareMultiKeyStatusWrite
          (handlerMultiKeyUpdate channel usingKey channelStatusAutoDisabled
            reason now) usingKey channelStatusAutoDisabled, abilitiesFollow) =
        some (snapshot, follow) →
      Merges snapshot ∧
        ∀ index, keyIndexOf channel.getKeys usingKey ≠ some index →
          LeavesKey snapshot.channel.channelInfo channel.channelInfo index := by
    intro abilitiesFollow outcome
    obtain ⟨rfl, _⟩ := Prod.ext_iff.mp (Option.some.inj outcome)
    unfold prepareMultiKeyStatusWrite
    rw [sameKeys]
    split
    · exact ⟨⟨kind, rfl, rfl, rfl⟩, fun _ => handlerMultiKeyUpdate_leaves⟩
    constructor
    · cases keyIndexOf channel.getKeys usingKey with
      | none | some index => exact ⟨kind, rfl, rfl, rfl⟩
    · exact fun _ spared => limitStatusWrite_leaves _ spared (handlerMultiKeyUpdate_leaves spared)
  unfold applyChannelStatusLocked at applied
  rw [if_neg (fun guard => disables guard.1)] at applied
  split at applied
  · split at applied
    · exact handled applied
    · split at applied
      · cases applied
      obtain ⟨rfl, _⟩ := Prod.ext_iff.mp (Option.some.inj applied)
      exact ⟨⟨multiKey, rfl, rfl, rfl⟩, fun _ _ => leavesKey_refl _ _⟩
  · exact handled applied

namespace RoutingTables

/-! ## Runs of automation -/

inductive AutomaticAction where
  | reportFailure (usingKey reason : String)
  | poll

structure AutomaticCall where
  action : AutomaticAction
  now : Int

def AutomaticCall.call (id : Nat) (call : AutomaticCall) : Call where
  operation :=
    match call.action with
    | .reportFailure usingKey reason =>
      .updateChannelStatus id usingKey channelStatusAutoDisabled reason
    | .poll => .getNextEnabledKey id
  now := call.now

/-- A report is not about a key that is manually disabled. -/
def AutomaticCall.SparesManual (call : AutomaticCall) (row : Channel) : Prop :=
  match call.action with
  | .reportFailure usingKey _ =>
    ∀ index, keyIndexOf row.getKeys usingKey = some index →
      (row.channelInfo.keyState index).isManuallyDisabled = false
  | .poll => True

variable {tables next : RoutingTables} {row : Channel}

section

variable (multiKey : row.channelInfo.isMultiKey = true)
  (found : tables.channels.lookup row.id = some row)
include multiKey found

theorem reportFailure_keepsManual
    (spares : ∀ index, keyIndexOf row.getKeys usingKey = some index →
      (row.channelInfo.keyState index).isManuallyDisabled = false)
    (done : tables.updateChannelStatus row.id usingKey
      channelStatusAutoDisabled reason now = .ok next) :
    ∃ new, next.channels.lookup row.id = some new ∧ KeepsManual row new := by
  obtain ⟨snapshot, _, _, applied, _, saved⟩ := updateChannelStatus_ok found done
  obtain ⟨merges, leaves⟩ := applyChannelStatusLocked_leaves multiKey applied
  refine ⟨snapshot.statusRow row, saved, ?_⟩
  have written := @statusRow_multiKey snapshot row merges.multiKey
  constructor
  · rw [written, merge_isMultiKey snapshot _ ⟨merges.replaces, merges.structured⟩]
    exact multiKey
  · rfl
  · intro index disabled
    rw [written]
    apply merge_keyState_left merges
    apply leaves
    intro located
    rw [spares index located] at disabled
    cases disabled

theorem poll_keepsManual :
    ∃ new, (tables.getNextEnabledKey row.id).channels.lookup row.id = some new ∧
      KeepsManual row new := by
  have unmoved : ∃ new, tables.channels.lookup row.id = some new ∧ KeepsManual row new :=
    ⟨row, found, multiKey, rfl, fun _ _ => rfl⟩
  unfold getNextEnabledKey
  rw [found]
  dsimp only
  split
  · split
    · exact unmoved
    rename_i cursor _
    cases outcome : tables.persistMultiKeyPollingIndex row.id
        ((cursor + 1) % row.getKeys.length : Nat) with
    | error err => simpa only [commit_error] using unmoved
    | ok next =>
      exact ⟨_, persistMultiKeyPollingIndex_row outcome found rfl, multiKey, rfl, fun _ _ => rfl⟩
  · exact unmoved

theorem step_keepsManual {call : AutomaticCall} (spares : call.SparesManual row) :
    ∃ new, (step tables (call.call row.id)).channels.lookup row.id = some new ∧
      KeepsManual row new := by
  obtain ⟨action, now⟩ := call
  cases action with
  | poll => exact poll_keepsManual multiKey found
  | reportFailure usingKey reason =>
    cases outcome : tables.updateChannelStatus row.id usingKey
        channelStatusAutoDisabled reason now with
    | error err =>
      have failed : (AutomaticCall.call row.id
          ⟨.reportFailure usingKey reason, now⟩).run tables = .error err :=
        outcome
      rw [step, failed, commit_error]
      exact ⟨row, found, multiKey, rfl, fun _ _ => rfl⟩
    | ok next =>
      have succeeded : (AutomaticCall.call row.id
          ⟨.reportFailure usingKey reason, now⟩).run tables = .ok next :=
        outcome
      rw [step, succeeded, commit_ok]
      exact reportFailure_keepsManual multiKey found spares outcome

end

def executeAutomatic (id : Nat) (tables : RoutingTables)
    (calls : List AutomaticCall) : RoutingTables :=
  execute (fun tables (call : AutomaticCall) => step tables (call.call id)) tables calls

/-- No report of a run is about a key that is manually disabled then. -/
def SparingRun (id : Nat) (tables : RoutingTables) (calls : List AutomaticCall) : Prop :=
  GuardedRun (fun tables (call : AutomaticCall) => step tables (call.call id))
    (fun tables call => ∀ row, tables.channels.lookup id = some row → call.SparesManual row)
    tables calls

theorem run_keepsManual (calls : List AutomaticCall) :
    ∀ (tables : RoutingTables) (row : Channel), SparingRun row.id tables calls →
      tables.channels.lookup row.id = some row →
      row.channelInfo.isMultiKey = true →
      ∃ new, (executeAutomatic row.id tables calls).channels.lookup row.id =
        some new ∧ KeepsManual row new := by
  induction calls with
  | nil =>
    intro tables row _ found multiKey
    exact ⟨row, found, multiKey, rfl, fun _ _ => rfl⟩
  | cons call calls ih =>
    intro tables row run found multiKey
    obtain ⟨middle, located, kept⟩ := step_keepsManual multiKey found (run.1 row found)
    have sameId : middle.id = row.id := KeyedTable.key_of_lookup located
    rw [← sameId] at located run ⊢
    obtain ⟨new, reached, later⟩ := ih _ middle run.2 located kept.multiKey
    exact ⟨new, reached, kept.trans later⟩

/-- In a run whose reports spare the manually disabled keys, each of these
keys stays as it is, and a deletion of the auto-disabled keys keeps it. -/
theorem manual_keys_survive {id : Nat} {calls : List AutomaticCall} {tables : RoutingTables}
    {row : Channel} (found : tables.channels.lookup id = some row)
    (multiKey : row.channelInfo.isMultiKey = true) (run : SparingRun id tables calls) :
    ∃ new, (executeAutomatic id tables calls).channels.lookup id = some new ∧
      new.getKeys = row.getKeys ∧
      ∀ entry ∈ row.keyTable, entry.2.isManuallyDisabled = true →
        entry ∈ new.keyTable ∧ entry ∈ (keptWithoutAutoDisabled new).entries := by
  have sameId : row.id = id := KeyedTable.key_of_lookup found
  subst sameId
  obtain ⟨new, reached, kept⟩ := run_keepsManual calls tables row run found multiKey
  have sameKeys : new.getKeys = row.getKeys := by simp only [Channel.getKeys, kept.key]
  refine ⟨new, reached, sameKeys, ?_⟩
  intro entry listed disabled
  have stays : entry ∈ new.keyTable := by
    obtain ⟨index, below, located⟩ := List.mem_mapIdx.mp listed
    subst located
    refine List.mem_mapIdx.mpr ⟨index, by rwa [sameKeys], ?_⟩
    simp only [sameKeys, kept.manual (0 + index) disabled]
  refine ⟨stays, ?_⟩
  rw [keptWithoutAutoDisabled_entries]
  refine List.mem_filter.mpr ⟨stays, ?_⟩
  cases state : entry.2 with
  | enabled => rfl
  | disabled status reason time =>
    have manual : status = channelStatusManuallyDisabled := by
      simpa [state, KeyState.isManuallyDisabled] using disabled
    rw [manual]
    rfl

end RoutingTables

end Reports

namespace RoutingTables

def firstDisabled : RoutingTables :=
  @step linesOnly (multiKeyTables "a\nb" 2) ⟨.disableMultiKey 1 0, 1⟩

theorem manual_keys_survive_failure : ∃ row new, firstDisabled.channels.lookup 1 = some row ∧
      (@executeAutomatic linesOnly 1 firstDisabled
        [⟨.reportFailure "b" "quota", 2⟩, ⟨.poll, 3⟩]).channels.lookup 1 = some new ∧
      ∀ entry ∈ @Channel.keyTable linesOnly row,
        entry.2.isManuallyDisabled = true → entry ∈ @Channel.keyTable linesOnly new := by
  obtain ⟨row, found⟩ : ∃ row, firstDisabled.channels.lookup 1 = some row :=
    Option.isSome_iff_exists.mp (by decide +kernel)
  have stored : (firstDisabled.channels.lookup 1).map (fun row =>
      (row.channelInfo.isMultiKey, @keyIndexOf (@Channel.getKeys linesOnly row) "b",
        (row.channelInfo.keyState 1).isManuallyDisabled)) =
      some (true, some 1, false) := by
    decide +kernel
  rw [found, Option.map_some] at stored
  obtain ⟨multiKey, located, enabled⟩ : row.channelInfo.isMultiKey = true ∧
        keyIndexOf (@Channel.getKeys linesOnly row) "b" = some 1 ∧
          (row.channelInfo.keyState 1).isManuallyDisabled = false := by
    simpa using stored
  have run : @SparingRun linesOnly 1 firstDisabled
      [⟨.reportFailure "b" "quota", 2⟩, ⟨.poll, 3⟩] := by
    refine ⟨?_, fun _ _ => trivial, trivial⟩
    intro other same index named
    rw [found] at same
    obtain rfl := Option.some.inj same
    rw [located] at named
    rw [← Option.some.inj named]
    exact enabled
  obtain ⟨new, reached, _, survive⟩ :=
    @manual_keys_survive linesOnly 1 _ firstDisabled row found multiKey run
  exact ⟨row, new, found, reached, fun entry listed disabled => (survive entry listed disabled).1⟩

/-- A late report for the disabled key overwrites the decision, and the key is
deleted with those that failed. -/
theorem manual_key_overwritten :
    (firstDisabled.channels.lookup 1).map (@Channel.keyTable linesOnly) =
        some [("a", .disabled channelStatusManuallyDisabled
          (some "manual disable") (some 1)), ("b", .enabled)] ∧
      ((@executeAutomatic linesOnly 1 firstDisabled
          [⟨.reportFailure "a" "quota", 2⟩]).channels.lookup 1).map (@Channel.keyTable linesOnly) =
        some [("a", .disabled channelStatusAutoDisabled (some "quota") (some 2)), ("b", .enabled)] ∧
      ((@step linesOnly (@executeAutomatic linesOnly 1 firstDisabled
          [⟨.reportFailure "a" "quota", 2⟩])
            ⟨.deleteAutoDisabledMultiKeys 1, 3⟩).channels.lookup 1).map
              (@Channel.getKeys linesOnly) = some ["b"] := by
  decide +kernel

end RoutingTables

end NewApi.Channels
