import NewApi.Relay.HeaderIsolation

/-!
# The two interpreters of header operations

A request that is passed through untouched has its header operations applied by
an interpreter without a body.  Both interpreters are followed side by side: on
operations that concern headers alone they leave the same context.
-/

namespace NewApi.Relay

open GoStrings

section Paths

variable {β : Type} (engine : OverrideEngine β)

def headerModes : List String :=
  ["set_header", "delete_header", "copy_header", "move_header", "pass_headers"]

/-- A header operation in its canonical spelling; `sync_fields` is one if both
of its sides are headers. -/
def HeaderOnly (operation : ParamOperation) : Prop :=
  operation.mode ∈ headerModes ∨
    operation.mode = "sync_fields" ∧
      (∃ name, parseSyncTarget engine operation.source = .ok (.header name)) ∧
        ∃ name, parseSyncTarget engine operation.target = .ok (.header name)

/-- The conditions of an operation come to the same whether or not the context
holds the audit recorder. -/
def AuditBlind (operation : ParamOperation) : Prop :=
  ∀ context,
    engine.checkConditions true engine.emptyBody context operation =
      engine.checkConditions false engine.emptyBody context operation

theorem toLower_ascii (text : String) (ascii : ∀ char ∈ text.toList, char.toNat < 128) :
    toLower engine.mapping text = String.ofList (text.toList.map Char.toLower) := by
  have lowered : text.toList.map engine.mapping.lower = text.toList.map Char.toLower :=
    List.map_congr_left fun char listed => engine.lower_ascii char (ascii char listed)
  rw [toLower, lowered]

variable {operation : ParamOperation}

theorem headerOnly_mode (headerOnly : HeaderOnly engine operation) :
    toLower engine.mapping (trimSpace operation.mode) = operation.mode := by
  have listed : operation.mode ∈ headerModes ++ ["sync_fields"] := by
    rcases headerOnly with listed | ⟨synced, _⟩
    · exact List.mem_append_left _ listed
    · simp [synced]
  have canonical : ∀ mode ∈ headerModes ++ ["sync_fields"],
      (trimSpace mode).toList.all (·.toNat < 128) = true ∧
        String.ofList ((trimSpace mode).toList.map Char.toLower) = mode := by
    decide +kernel
  obtain ⟨ascii, lowered⟩ := canonical _ listed
  rw [toLower_ascii engine _ (by simpa using ascii), lowered]

/-- The result of a header operation, with the body it was given. -/
def Keeps (body : β) (changed : Except String (β × OverrideContext)) : Prop :=
  changed = (changed.map Prod.snd).map fun context => (body, context)

theorem keeps_map {α : Type} (body : β) (found : Except String α) (next : α → OverrideContext) :
    Keeps body (found.map fun value => (body, next value)) := by
  cases found <;> rfl

theorem writeHeader_keeps (body : β) (context : OverrideContext)
    (value : JsonValue) (name : String) :
    Keeps body (writeSyncTargetValue engine body context value (.header name)) := by
  rw [writeSyncTargetValue]
  exact keeps_map body _ id

theorem syncFields_keeps (body : β) (context : OverrideContext)
    {fromSpec toSpec fromName toName : String}
    (parsedFrom : parseSyncTarget engine fromSpec = .ok (.header fromName))
    (parsedTo : parseSyncTarget engine toSpec = .ok (.header toName)) :
    Keeps body (syncFieldsBetweenTargets engine body context fromSpec toSpec) := by
  unfold syncFieldsBetweenTargets
  rw [parsedFrom, parsedTo]
  simp only [Except.bind]
  cases readSyncTargetValue engine body context (.header fromName) with
  | none =>
    cases readSyncTargetValue engine body context (.header toName) with
    | none => rfl
    | some value => exact writeHeader_keeps engine body context value fromName
  | some value =>
    cases readSyncTargetValue engine body context (.header toName) with
    | none => exact writeHeader_keeps engine body context value toName
    | some _ => rfl

theorem headerOperation_keeps (body : β) (context : OverrideContext)
    (headerOnly : HeaderOnly engine operation) :
    ∃ changed, headerOperation engine operation.mode body context operation =
      some changed ∧ Keeps body changed := by
  unfold headerOperation
  split_ifs with set delete copy move pass sync
  · exact ⟨_, rfl, keeps_map body _ id⟩
  · exact ⟨_, rfl, keeps_map body _ id⟩
  · exact ⟨_, rfl, keeps_map body _ _⟩
  · exact ⟨_, rfl, keeps_map body _ _⟩
  · refine ⟨_, rfl, ?_⟩
    cases engine.parseHeaderPassThroughNames operation.value with
    | error message => rfl
    | ok names => exact keeps_map body _ id
  · rcases headerOnly with listed | ⟨_, ⟨_, parsedFrom⟩, ⟨_, parsedTo⟩⟩
    · simp [headerModes, sync] at listed
    · exact ⟨_, rfl, syncFields_keeps engine body context parsedFrom parsedTo⟩
  · simp [HeaderOnly, headerModes, set, delete, copy, move, pass, sync] at headerOnly

theorem applyHeaderOperations_cons (headerOnly : HeaderOnly engine operation)
    (context : OverrideContext) (operations : List ParamOperation) :
    ∃ changed : Except String OverrideContext,
      headerOperation engine operation.mode engine.emptyBody context operation =
        some (changed.map fun next => (engine.emptyBody, next)) ∧
      applyHeaderOperations engine context (operation :: operations) =
        (engine.checkConditions false engine.emptyBody context operation).bind
          fun holds =>
            if holds then changed.bind fun next => applyHeaderOperations engine next operations
            else applyHeaderOperations engine context operations := by
  obtain ⟨changed, found, keeps⟩ := headerOperation_keeps engine engine.emptyBody context headerOnly
  refine ⟨changed.map Prod.snd, by rw [found, ← keeps], ?_⟩
  rw [applyHeaderOperations]
  rw [headerOnly_mode engine headerOnly]
  by_cases synced : operation.mode = "sync_fields"
  · rcases headerOnly with listed | ⟨_, ⟨_, parsedFrom⟩, ⟨_, parsedTo⟩⟩
    · simp [headerModes, synced] at listed
    · have same : syncFieldsBetweenTargets engine engine.emptyBody context
          operation.source operation.target = changed := by
        simpa [headerOperation, synced] using found
      simp only [synced, if_true, parsedFrom, parsedTo, Except.bind, same]
  · simp only [synced, if_false, found]

theorem applyOperations_headers (recorded : Bool) (operations : List ParamOperation)
    (headerOnly : ∀ operation ∈ operations, HeaderOnly engine operation)
    (blind : recorded = true → ∀ operation ∈ operations, AuditBlind engine operation) :
    ∀ context,
      applyOperations engine recorded engine.emptyBody context operations =
        (applyHeaderOperations engine context operations).map fun next =>
          (engine.emptyBody, next) := by
  induction operations with
  | nil => exact fun _ => rfl
  | cons operation operations ih =>
    intro context
    obtain ⟨changed, found, reduced⟩ := applyHeaderOperations_cons engine
      (headerOnly operation List.mem_cons_self) context operations
    have later := ih (fun other listed => headerOnly other (List.mem_cons_of_mem _ listed))
      (fun on other listed => blind on other (List.mem_cons_of_mem _ listed))
    have seen : engine.checkConditions recorded engine.emptyBody context operation =
          engine.checkConditions false engine.emptyBody context operation := by
      cases recorded with
      | true => exact blind rfl operation List.mem_cons_self context
      | false => rfl
    rw [applyOperations, reduced, found, seen]
    cases engine.checkConditions false engine.emptyBody context operation with
    | error message => rfl
    | ok holds =>
      cases holds with
      | false => exact later context
      | true =>
        cases changed with
        | error message => rfl
        | ok next => exact later next

variable {info : RelayInfo} {operations : List ParamOperation}

theorem applyParamOverride_operations
    (configured : getParamOverrideMap info = ⟨some operations, []⟩) (ranging : Ranging) (body : β) :
    applyParamOverrideWithRelayInfo engine ranging body info =
      match applyOperations engine
          (shouldEnableParamOverrideAudit engine ⟨some operations, []⟩) body
          (buildParamOverrideContext engine ranging info) operations with
      | .ok result => (syncRuntimeHeaderOverrideFromContext engine ranging info result.2, true)
      | .error _ => (info, false) := by
  rw [applyParamOverrideWithRelayInfo, configured]
  simp only [ParamOverride.isEmpty, Option.isNone_some, Bool.false_and,
    applyParamOverride, if_true, Except.bind]
  cases applyOperations engine (shouldEnableParamOverrideAudit engine ⟨some operations, []⟩) body
      (buildParamOverrideContext engine ranging info) operations with
  | error message => rfl
  | ok result => rfl

/-- On a list of header operations that is not empty, and whose conditions do
not see the audit recorder, both functions do the same, each in its own orders
of ranging; on the empty list only the one with a body records the headers in
force. -/
theorem header_paths_agree (configured : getParamOverrideMap info = ⟨some operations, []⟩)
    (named : NamesDistinct engine (headersInForce info))
    (headerOnly : ∀ operation ∈ operations, HeaderOnly engine operation)
    (blind : shouldEnableParamOverrideAudit engine ⟨some operations, []⟩ = true →
        ∀ operation ∈ operations, AuditBlind engine operation) (first second : Ranging) :
    (operations ≠ [] →
      applyHeaderOverrideOperationsWithRelayInfo engine first info =
        applyParamOverrideWithRelayInfo engine second engine.emptyBody info) ∧
    (operations = [] →
      applyHeaderOverrideOperationsWithRelayInfo engine first info = (info, true) ∧
      applyParamOverrideWithRelayInfo engine second engine.emptyBody info =
        (syncRuntimeHeaderOverrideFromContext engine second info
          (buildParamOverrideContext engine second info), true)) := by
  rw [(applyHeaderOverride_ranging named first second).1,
    applyParamOverride_operations engine configured]
  constructor
  · intro nonempty
    rw [applyOperations_headers engine _ operations headerOnly blind]
    cases operations with
    | nil => exact absurd rfl nonempty
    | cons operation operations =>
      rw [applyHeaderOverrideOperationsWithRelayInfo, configured]
      dsimp only
      cases applyHeaderOperations engine (buildParamOverrideContext engine second info)
          (operation :: operations) with
      | error message => rfl
      | ok context => rfl
  · rintro rfl
    rw [applyHeaderOverrideOperationsWithRelayInfo, configured]
    exact ⟨rfl, rfl⟩

end Paths

def setHeader (name : String) (conditions : JsonValue) : ParamOperation where
  path := name
  mode := "set_header"
  value := .string "fast"
  keepOrigin := false
  source := ""
  target := ""
  conditions := conditions
  logic := "OR"

def infoWith (operations : List ParamOperation) : RelayInfo where
  client := bareRequest
  retry := ⟨"default", 0, none⟩
  channelMeta := some
    { upstreamModelName := "gpt-4o"
      paramOverride := ⟨some operations, []⟩
      headersOverride := [("Authorization", .string "Bearer first")] }
  runtimeHeadersOverride := []
  useRuntimeHeadersOverride := false

theorem header_paths_agree_speed :
    applyHeaderOverrideOperationsWithRelayInfo flatEngine .stored
        (infoWith [setHeader "speed" .null]) =
      applyParamOverrideWithRelayInfo flatEngine .backwards flatEngine.emptyBody
        (infoWith [setHeader "speed" .null]) := by
  have named : NamesDistinct flatEngine (headersInForce (infoWith [setHeader "speed" .null])) :=
    List.nodup_singleton _
  refine (header_paths_agree flatEngine rfl named ?_ ?_ .stored .backwards).1 (by simp)
  · intro operation listed
    exact Or.inl (by simp [List.mem_singleton.mp listed, setHeader, headerModes])
  · exact fun _ _ _ _ => rfl

/-- Conditions that ask whether a path is in the context, of which only the
entry of the audit recorder is kept. -/
def auditReadingEngine : OverrideEngine FlatBody :=
  { flatEngine with
    checkConditions := fun recorded _ _ operation =>
      match operation.conditions with
      | .string path => .ok (recorded && path = "__param_override_audit_recorder")
      | _ => .ok true }

/-- The empty list is passed over without a body, and a header whose name is a
sensitive path lets a condition find the recorder. -/
theorem header_paths_differ :
    (applyHeaderOverrideOperationsWithRelayInfo flatEngine .stored
        (infoWith [])).1.useRuntimeHeadersOverride = false ∧
    (applyParamOverrideWithRelayInfo flatEngine .stored []
        (infoWith [])).1.useRuntimeHeadersOverride = true ∧
    (applyHeaderOverrideOperationsWithRelayInfo auditReadingEngine .stored
        (infoWith [setHeader "speed"
          (.string "__param_override_audit_recorder")])).1.runtimeHeadersOverride =
      [("authorization", "Bearer first")] ∧
    (applyParamOverrideWithRelayInfo auditReadingEngine .stored []
        (infoWith [setHeader "speed"
          (.string "__param_override_audit_recorder")])).1.runtimeHeadersOverride =
      [("authorization", "Bearer first"), ("speed", "fast")] := by
  decide +kernel

end NewApi.Relay
