import NewApi.Relay.HeaderOrder

/-!
# What one attempt hands to the next

An attempt whose parameter override is applied sets the flag of the runtime
headers, and no later attempt clears it.  A following channel is therefore
served with its own headers exactly as long as no earlier one had an override
applied.
-/

namespace NewApi.Relay

open GoStrings

section Isolation

variable {β : Type} (engine : OverrideEngine β)

/-- The override of the current channel applies to the call: it is there, and
it ends without an error. -/
def OverrideApplies (ranging : Ranging) (info : RelayInfo) : OverrideCall β → Prop
  | .params body =>
    (getParamOverrideMap info).isEmpty = false ∧
      ∃ result, applyParamOverride engine body (getParamOverrideMap info)
        (buildParamOverrideContext engine ranging info) = .ok result
  | .headers =>
    ∃ operation operations context,
      (getParamOverrideMap info).operations = some (operation :: operations) ∧
      applyHeaderOperations engine (buildParamOverrideContext engine ranging info)
        (operation :: operations) = .ok context

/-- The override of an attempt applies on a request that starts with this
attempt. -/
def RelayAttempt.Applies (client : ClientRequest) (attempt : RelayAttempt β) : Prop :=
  OverrideApplies engine attempt.ranging (initChannelMeta (newRelayInfo client) attempt)
    attempt.call

/-- A request of `client` to which no attempt has left runtime headers. -/
def Untouched (client : ClientRequest) (info : RelayInfo) : Prop :=
  info.client = client ∧ info.runtimeHeadersOverride = [] ∧ info.useRuntimeHeadersOverride = false

theorem untouched_new (client : ClientRequest) : Untouched client (newRelayInfo client) :=
  ⟨rfl, rfl, rfl⟩

theorem applyParamOverride_cases (ranging : Ranging) (body : β) (info : RelayInfo) :
    (¬ OverrideApplies engine ranging info (.params body) ∧
      (applyParamOverrideWithRelayInfo engine ranging body info).1 = info) ∨
    (OverrideApplies engine ranging info (.params body) ∧
      (applyParamOverrideWithRelayInfo engine ranging body
        info).1.useRuntimeHeadersOverride = true) := by
  by_cases empty : (getParamOverrideMap info).isEmpty = true
  · left
    refine ⟨fun applied => ?_, by simp [applyParamOverrideWithRelayInfo, empty]⟩
    have nonempty : (getParamOverrideMap info).isEmpty = false := applied.1
    simp [empty] at nonempty
  · have nonempty : (getParamOverrideMap info).isEmpty = false := by simpa using empty
    cases outcome : applyParamOverride engine body (getParamOverrideMap info)
        (buildParamOverrideContext engine ranging info) with
    | error message =>
      left
      constructor
      · rintro ⟨_, result, succeeded⟩
        simp [outcome] at succeeded
      · simp [applyParamOverrideWithRelayInfo, nonempty, outcome]
    | ok result =>
      right
      refine ⟨⟨nonempty, result, outcome⟩, ?_⟩
      simp [applyParamOverrideWithRelayInfo, nonempty, outcome,
        syncRuntimeHeaderOverrideFromContext]

/-- Headers come into force only if the override applies. -/
theorem applyHeaderOperations_cases (ranging : Ranging) (info : RelayInfo) :
    (¬ OverrideApplies engine ranging info .headers ∧
      (applyHeaderOverrideOperationsWithRelayInfo engine ranging info).1 = info) ∨
    (OverrideApplies engine ranging info .headers ∧
      (applyHeaderOverrideOperationsWithRelayInfo engine ranging
        info).1.useRuntimeHeadersOverride = true) := by
  cases listed : (getParamOverrideMap info).operations with
  | none =>
    left
    constructor
    · rintro ⟨operation, operations, context, some_listed, _⟩
      simp [listed] at some_listed
    · simp [applyHeaderOverrideOperationsWithRelayInfo, listed]
  | some operations =>
    cases operations with
    | nil =>
      left
      constructor
      · rintro ⟨operation, operations, context, some_listed, _⟩
        simp [listed] at some_listed
      · simp [applyHeaderOverrideOperationsWithRelayInfo, listed]
    | cons operation operations =>
      cases outcome : applyHeaderOperations engine (buildParamOverrideContext engine ranging info)
          (operation :: operations) with
      | error message =>
        left
        constructor
        · rintro ⟨first, others, context, some_listed, succeeded⟩
          have same : operation :: operations = first :: others := by
            simpa [listed] using some_listed
          rw [← same, outcome] at succeeded
          simp at succeeded
        · simp [applyHeaderOverrideOperationsWithRelayInfo, listed, outcome]
      | ok context =>
        right
        refine ⟨⟨operation, operations, context, listed, outcome⟩, ?_⟩
        simp [applyHeaderOverrideOperationsWithRelayInfo, listed, outcome,
          syncRuntimeHeaderOverrideFromContext]

variable {client : ClientRequest} {info : RelayInfo}

section

variable (untouched : Untouched client info) (attempt : RelayAttempt β)
include untouched attempt

theorem initChannelMeta_untouched :
    initChannelMeta info attempt = initChannelMeta (newRelayInfo client) attempt := by
  have sameClient : info.client = client := untouched.1
  have noHeaders : info.runtimeHeadersOverride = [] := untouched.2.1
  have noFlag : info.useRuntimeHeadersOverride = false := untouched.2.2
  simp [initChannelMeta, newRelayInfo, sameClient, noHeaders, noFlag]

theorem relayAttempt_untouched :
    relayAttempt engine info attempt = relayAttempt engine (newRelayInfo client) attempt := by
  have sameStart := initChannelMeta_untouched untouched attempt
  simp only [relayAttempt, sameStart]

theorem relayAttempt_cases :
    (¬ attempt.Applies engine client ∧ Untouched client (relayAttempt engine info attempt)) ∨
    (attempt.Applies engine client ∧
      (relayAttempt engine info attempt).useRuntimeHeadersOverride = true) := by
  rw [relayAttempt_untouched engine untouched]
  have started : Untouched client (initChannelMeta (newRelayInfo client) attempt) := ⟨rfl, rfl, rfl⟩
  unfold RelayAttempt.Applies relayAttempt
  cases attempt.call with
  | params body =>
    refine (applyParamOverride_cases engine attempt.ranging body _).imp_left ?_
    rintro ⟨unapplied, unchanged⟩
    exact ⟨unapplied, by simpa only [unchanged] using started⟩
  | headers =>
    refine (applyHeaderOperations_cases engine attempt.ranging _).imp_left ?_
    rintro ⟨unapplied, unchanged⟩
    exact ⟨unapplied, by simpa only [unchanged] using started⟩

end

theorem relayAttempt_flag (flagged : info.useRuntimeHeadersOverride = true)
    (attempt : RelayAttempt β) :
    (relayAttempt engine info attempt).useRuntimeHeadersOverride = true := by
  have started : (initChannelMeta info attempt).useRuntimeHeadersOverride = true := flagged
  unfold relayAttempt
  cases attempt.call with
  | params body =>
    rcases applyParamOverride_cases engine attempt.ranging body
      (initChannelMeta info attempt) with ⟨_, unchanged⟩ | ⟨_, set⟩
    · simpa only [unchanged] using started
    · exact set
  | headers =>
    rcases applyHeaderOperations_cases engine attempt.ranging
      (initChannelMeta info attempt) with ⟨_, unchanged⟩ | ⟨_, set⟩
    · simpa only [unchanged] using started
    · exact set

def attemptsFrom (info : RelayInfo) (attempts : List (RelayAttempt β)) :
    RelayInfo :=
  attempts.foldl (relayAttempt engine) info

theorem attemptsFrom_flag (attempts : List (RelayAttempt β)) :
    ∀ info : RelayInfo, info.useRuntimeHeadersOverride = true →
      (attemptsFrom engine info attempts).useRuntimeHeadersOverride = true := by
  induction attempts with
  | nil => exact fun _ flagged => flagged
  | cons attempt attempts ih =>
    intro info flagged
    exact ih _ (relayAttempt_flag engine flagged attempt)

/-- Nothing is touched before the first attempt that applies. -/
theorem attemptsFrom_cases (attempts : List (RelayAttempt β)) :
    ∀ info : RelayInfo, Untouched client info →
      ((∀ attempt ∈ attempts, ¬ attempt.Applies engine client) ∧
        Untouched client (attemptsFrom engine info attempts)) ∨
      ((∃ attempt ∈ attempts, attempt.Applies engine client) ∧
        (attemptsFrom engine info attempts).useRuntimeHeadersOverride = true) := by
  induction attempts with
  | nil => exact fun _ untouched => Or.inl ⟨by simp, untouched⟩
  | cons attempt attempts ih =>
    intro info untouched
    rcases relayAttempt_cases engine untouched attempt with ⟨unapplied, still⟩ | ⟨applied, flagged⟩
    · rcases ih _ still with ⟨none_applied, kept⟩ | ⟨later, flagged⟩
      · left
        refine ⟨?_, kept⟩
        intro other listed
        rcases List.mem_cons.mp listed with rfl | tail
        · exact unapplied
        · exact none_applied other tail
      · right
        obtain ⟨other, tail, applied⟩ := later
        exact ⟨⟨other, List.mem_cons_of_mem _ tail, applied⟩, flagged⟩
    · right
      refine ⟨⟨attempt, List.mem_cons_self, applied⟩, ?_⟩
      exact attemptsFrom_flag engine attempts _ flagged

/-- In an attempt on an untouched request the orders of ranging do not show
when the names of its headers are distinct. -/
theorem relayAttempt_ranging (attempt : RelayAttempt β) (alone : Ranging)
    (distinct : NamesDistinct engine attempt.headersOverride) :
    relayAttempt engine (newRelayInfo client) attempt =
        relayAttempt engine (newRelayInfo client) { attempt with ranging := alone } ∧
      NamesDistinct engine (headersInForce (relayAttempt engine (newRelayInfo client) attempt)) := by
  have inForce : NamesDistinct engine
      (headersInForce (initChannelMeta (newRelayInfo client) attempt)) := distinct
  unfold relayAttempt
  cases attempt.call with
  | params body =>
    have ranged := applyParamOverride_ranging inForce body attempt.ranging alone
    exact ⟨congrArg Prod.fst ranged.1, ranged.2⟩
  | headers =>
    have ranged := applyHeaderOverride_ranging inForce attempt.ranging alone
    exact ⟨congrArg Prod.fst ranged.1, ranged.2⟩

def plainAttempt (headers : List (String × JsonValue)) (ranging : Ranging) : RelayAttempt β where
  retry := ⟨"", 0, none⟩
  paramOverride := ⟨none, []⟩
  headersOverride := headers
  call := .headers
  ranging := ranging

theorem relayAttempt_plain (info : RelayInfo) (headers : List (String × JsonValue))
    (ranging : Ranging) :
    relayAttempt engine info (plainAttempt headers ranging) =
      initChannelMeta info (@plainAttempt β headers ranging) :=
  rfl

theorem normalize_x : normalizeHeaderContextKey engine "x" = "x" := by
  have lowered : engine.mapping.lower 'x' = 'x' := by
    rw [engine.lower_ascii 'x' (by decide)]
    decide
  have text : toLower engine.mapping "x" = "x" := by simp [toLower, lowered]
  rw [normalizeHeaderContextKey, text]
  decide +kernel

theorem sanitize_x (ranging : Ranging) :
    sanitizeHeaderOverrideMap engine ranging [("x", .string "v")] = [("x", "v")] := by
  have alone : ranging.order [("x", JsonValue.string "v")] = [("x", .string "v")] :=
    List.perm_singleton.mp (ranging.perm _)
  have value : trimSpace (JsonValue.print (.string "v")) = "v" := by decide +kernel
  simp [sanitizeHeaderOverrideMap, alone, SortedMaps.collect, sanitizeEntry, normalize_x engine,
    value, SortedMaps.set]

theorem sanitize_nil (ranging : Ranging) : sanitizeHeaderOverrideMap engine ranging [] = [] := by
  have none : ranging.order ([] : List (String × JsonValue)) = [] :=
    List.perm_nil.mp (ranging.perm _)
  rw [sanitizeHeaderOverrideMap, none]
  rfl

theorem effectiveHeaders_append (client : ClientRequest) (earlier : List (RelayAttempt β))
    (last : RelayAttempt β) (ranging : Ranging) :
    effectiveHeaders engine client (earlier ++ [last]) ranging =
      getEffectiveHeaderOverride engine ranging
        (relayAttempt engine (attemptsFrom engine (newRelayInfo client) earlier) last) := by
  simp [effectiveHeaders, relayAttempts, attemptsFrom, List.foldl_append]

theorem effective_carried (flagged : info.useRuntimeHeadersOverride = true)
    (attempt : RelayAttempt β) (ranging : Ranging) :
    getEffectiveHeaderOverride engine ranging (initChannelMeta info attempt) =
      sanitizeHeaderOverrideMap engine ranging info.runtimeHeadersOverride.values := by
  simp [getEffectiveHeaderOverride, headersInForce, initChannelMeta, flagged]

end Isolation

abbrev FlatBody := List (String × JsonValue)

def FlatBody.setField (body : FlatBody) (path : String) (value : JsonValue) :
    FlatBody :=
  (body.filter fun entry => entry.1 ≠ path) ++ [(path, value)]

def flatEngine : OverrideEngine FlatBody where
  mapping := .ascii
  lower_ascii := fun _ _ => rfl
  lower_lower := CaseMapping.ascii_lower_lower
  debugEnabled := false
  checkConditions := fun _ _ _ _ => .ok true
  bodyOperation := fun body _ operation =>
    if operation.mode = "set" then .ok (body.setField operation.path operation.value)
    else .error ("unknown operation: " ++ operation.mode)
  applyOperationsLegacy := fun body fields =>
    .ok (fields.foldl (fun body entry => body.setField entry.1 entry.2) body)
  readPath := mappingEntry
  writePath := fun body path value => .ok (body.setField path value)
  emptyBody := []
  parseHeaderPassThroughNames := fun value => .ok [value.print]

def bareRequest : ClientRequest where
  userId := 1
  userGroup := "default"
  tokenGroup := ""
  originModelName := "gpt-4o"
  requestURLPath := "/v1/chat/completions"
  requestHeaders := []
  isChannelTest := false
  tokens := by simp
  oneSpelling := List.nodup_nil

def Ranging.stored : Ranging := ⟨id, fun _ => .refl _⟩

def Ranging.backwards : Ranging := ⟨List.reverse, List.reverse_perm⟩

-- Names that agree once normalised show the order.
example :
    sanitizeHeaderOverrideMap flatEngine .stored
        [("X-Key", .string "1"), ("x-key", .string "2")] = [("x-key", "2")] ∧
      sanitizeHeaderOverrideMap flatEngine .backwards
        [("X-Key", .string "1"), ("x-key", .string "2")] = [("x-key", "1")] := by
  decide +kernel

def credentialAttempt (credential : String) (legacy : List (String × JsonValue)) :
    RelayAttempt FlatBody where
  retry := ⟨"default", 0, none⟩
  paramOverride := ⟨none, legacy⟩
  headersOverride := [("Authorization", .string credential)]
  call := .params [("model", .string "gpt-4o")]
  ranging := .stored

end NewApi.Relay
