import Mathlib.Data.List.Sort
import Mathlib.Data.String.Basic
import NewApi.Lib.GoStrings
import NewApi.Lib.SortedMaps

/-!
# Header overrides of a relay request

One `RelayInfo` serves all attempts of a request.  `InitChannelMeta` loads the
configuration of the chosen channel; its parameter override is applied to the
body, and what it leaves in the header map is kept as the runtime headers.  A
`range` loop over a map visits it in an order of its own, which a `Ranging`
stands for.
-/

namespace NewApi.Relay

open GoStrings

/-- A decoded JSON value.  A number is kept as it is printed. -/
inductive JsonValue where
  | null
  | bool (value : Bool)
  | number (printed : String)
  | string (value : String)
  | array (items : List JsonValue)
  | object (fields : List (String × JsonValue))

mutual

/-- The text of `%v`, which prints a map in the order of its keys. -/
def JsonValue.print : JsonValue → String
  | .null => "<nil>"
  | .bool value => if value then "true" else "false"
  | .number printed => printed
  | .string value => value
  | .array items => "[" ++ " ".intercalate (JsonValue.printItems items) ++ "]"
  | .object fields =>
    "map[" ++
      " ".intercalate
        (((JsonValue.printFields fields).insertionSort fun left right => left.1 ≤ right.1).map
          fun field => field.1 ++ ":" ++ field.2) ++
      "]"

def JsonValue.printItems : List JsonValue → List String
  | [] => []
  | item :: items => item.print :: JsonValue.printItems items

def JsonValue.printFields : List (String × JsonValue) → List (String × String)
  | [] => []
  | (key, item) :: fields => (key, item.print) :: JsonValue.printFields fields

end

example :
    (JsonValue.object [("b", .number "1"), ("a", .array [.null])]).print = "map[a:[<nil>] b:1]" := by
  decide +kernel

/-- `ParamOperation`; its conditions are read by the engine. -/
structure ParamOperation where
  path : String
  mode : String
  value : JsonValue
  keepOrigin : Bool
  source : String
  target : String
  conditions : JsonValue
  logic : String

/-- A `ParamOverride` map: its operations, if it has a list of them that
parses, and the entries that are applied the old way. -/
structure ParamOverride where
  operations : Option (List ParamOperation)
  legacy : List (String × JsonValue)

def ParamOverride.isEmpty (override : ParamOverride) : Bool :=
  override.operations.isNone && override.legacy.isEmpty

/-- A map of headers.  It is written down, as by `encoding/json`, in the order of
its names. -/
abbrev Headers := List (String × String)

namespace Headers

def get (headers : Headers) (name : String) : Option String := SortedMaps.get headers name

def remove (headers : Headers) (name : String) : Headers := SortedMaps.erase headers name

def set (headers : Headers) (name value : String) : Headers := SortedMaps.set headers name value

end Headers

/-- The orders in which a call ranges over its maps. -/
structure Ranging where
  order : {α : Type} → List (String × α) → List (String × α)
  perm : ∀ {α : Type} (entries : List (String × α)), (order entries).Perm entries

structure ClientRequest where
  userId : Nat
  userGroup : String
  tokenGroup : String
  originModelName : String
  requestURLPath : String
  requestHeaders : List (String × String)
  isChannelTest : Bool
  /-- Header names are tokens, and `net/http` keeps one spelling of each. -/
  tokens : ∀ entry ∈ requestHeaders, ∀ char ∈ entry.1.toList,
    char.toNat < 128 ∧ isSpace char = false
  oneSpelling : (requestHeaders.map fun entry => entry.1.toList.map Char.toLower).Nodup

structure RelayError where
  statusCode : Int
  message : String
  code : String
  errorType : String
  skipRetry : Bool

/-- What changes from attempt to attempt beside the channel. -/
structure RetryContext where
  usingGroup : String
  retryIndex : Nat
  lastError : Option RelayError

/-- The fields of `ChannelMeta` that overrides read. -/
structure ChannelMeta where
  upstreamModelName : String
  paramOverride : ParamOverride
  headersOverride : List (String × JsonValue)

/-- The fields of `RelayInfo` that overrides read and write. -/
structure RelayInfo where
  client : ClientRequest
  retry : RetryContext
  channelMeta : Option ChannelMeta
  runtimeHeadersOverride : Headers
  useRuntimeHeadersOverride : Bool

/-- The context map of `BuildParamOverrideContext`. -/
structure OverrideContext where
  client : ClientRequest
  retry : RetryContext
  upstreamModel : Option String
  model : Option String
  requestHeaders : Headers
  headerOverride : Headers

/-- The library functions behind overrides: the case mapping, the JSON path
library on bodies of type `β`, the conditions of operations on a body and a
context, and the lists of header names.  Conditions may also read the audit
recorder, if the context holds one. -/
structure OverrideEngine (β : Type) where
  mapping : CaseMapping
  lower_ascii : ∀ char : Char, char.toNat < 128 → mapping.lower char = char.toLower
  lower_lower : ∀ char : Char, mapping.lower (mapping.lower char) = mapping.lower char
  debugEnabled : Bool
  checkConditions : (recorded : Bool) → β → OverrideContext → ParamOperation → Except String Bool
  bodyOperation : β → OverrideContext → ParamOperation → Except String β
  applyOperationsLegacy : β → List (String × JsonValue) → Except String β
  readPath : β → String → Option JsonValue
  writePath : β → String → JsonValue → Except String β
  emptyBody : β
  parseHeaderPassThroughNames : JsonValue → Except String (List String)

section Engine

variable {β : Type} (engine : OverrideEngine β)

def normalizeHeaderContextKey (key : String) : String := trimSpace (toLower engine.mapping key)

def isHeaderPassthroughRuleKeyForOverride (key : String) : Bool :=
  let key := trimSpace (toLower engine.mapping key)
  key = "*" || hasPrefix key "re:" || hasPrefix key "regex:"

/-- The entry of the sanitised map for one of the source, if it gets one. -/
def sanitizeEntry (entry : String × JsonValue) : Option (String × String) :=
  let key := normalizeHeaderContextKey engine entry.1
  let value := trimSpace entry.2.print
  if key = "" then none
  else if value = "" then
    if isHeaderPassthroughRuleKeyForOverride engine key then some (key, "")
    else none
  else some (key, value)

def sanitizeHeaderOverrideMap (ranging : Ranging) (source : List (String × JsonValue)) : Headers :=
  SortedMaps.collect (sanitizeEntry engine) (ranging.order source)

def Headers.values (headers : Headers) : List (String × JsonValue) :=
  headers.map fun entry => (entry.1, .string entry.2)

/-- The map that `GetEffectiveHeaderOverride` ranges over. -/
def headersInForce (info : RelayInfo) : List (String × JsonValue) :=
  if info.useRuntimeHeadersOverride then info.runtimeHeadersOverride.values
  else
    match info.channelMeta with
    | some channel => channel.headersOverride
    | none => []

def getEffectiveHeaderOverride (ranging : Ranging) (info : RelayInfo) : Headers :=
  sanitizeHeaderOverrideMap engine ranging (headersInForce info)

def requestHeaderEntry (entry : String × String) : Option (String × String) :=
  let key := normalizeHeaderContextKey engine entry.1
  let value := trimSpace entry.2
  if key = "" ∨ value = "" then none else some (key, value)

def buildRequestHeadersContext (ranging : Ranging) (headers : List (String × String)) : Headers :=
  SortedMaps.collect (requestHeaderEntry engine) (ranging.order headers)

def named (model : String) : Option String := if model = "" then none else some model

def buildParamOverrideContext (ranging : Ranging) (info : RelayInfo) : OverrideContext :=
  let upstream := info.channelMeta.bind fun channel => named channel.upstreamModelName
  { client := info.client
    retry := info.retry
    upstreamModel := upstream
    model := upstream <|> named info.client.originModelName
    requestHeaders := buildRequestHeadersContext engine ranging info.client.requestHeaders
    headerOverride :=
      sanitizeHeaderOverrideMap engine ranging
        (getEffectiveHeaderOverride engine ranging info).values }

/-! ## Header operations -/

def getHeaderValueFromContext (context : OverrideContext) (name : String) : Option String :=
  let name := normalizeHeaderContextKey engine name
  if name = "" then none
  else
    [context.headerOverride, context.requestHeaders].findSome? fun source =>
      (source.get name).bind fun value =>
        if trimSpace value = "" then none else some (trimSpace value)

def splitHeaderListValue (raw : String) : List String :=
  ((raw.toList.splitOn ',').map fun item => trimSpace (String.ofList item)).filter (· ≠ "")

mutual

def parseHeaderReplacementTokens : JsonValue → Except String (List String)
  | .null => .ok []
  | .string raw => .ok (splitHeaderListValue raw)
  | .array items => (parseReplacementItems items).map List.eraseDups
  | .object _ => .error "header replacement value must be string, array or null"
  | .bool value => .ok [(JsonValue.bool value).print]
  | .number printed => .ok (if trimSpace printed = "" then [] else [trimSpace printed])

def parseReplacementItems : List JsonValue → Except String (List String)
  | [] => .ok []
  | item :: items =>
    (parseHeaderReplacementTokens item).bind fun tokens =>
      (parseReplacementItems items).map fun others => tokens ++ others

end

def mappingEntry (mapping : List (String × JsonValue)) (key : String) : Option JsonValue :=
  (mapping.find? fun entry => entry.1 = key).map Prod.snd

def parseHeaderKeepOnlyDeclared (mapping : List (String × JsonValue)) : Bool :=
  match mappingEntry mapping "$keep_only_declared" with
  | some (.bool value) => value
  | _ => false

/-- The tokens that replace a token of the current value. -/
def replacementOf (mapping : List (String × JsonValue)) (token : String) :
    Except String (List String) :=
  let keepOnlyDeclared := parseHeaderKeepOnlyDeclared mapping
  let wildcard := if keepOnlyDeclared then none else mappingEntry mapping "*"
  match mappingEntry mapping token <|> wildcard with
  | some replacement => parseHeaderReplacementTokens replacement
  | none => .ok (if keepOnlyDeclared then [] else [token])

def resolveHeaderOverrideValueByMapping (context : OverrideContext) (name : String)
    (mapping : List (String × JsonValue)) : Except String (Option String) :=
  if mapping = [] then .error "header value mapping cannot be empty"
  else
    let appended :=
      match mappingEntry mapping "$append" with
      | some value => parseHeaderReplacementTokens value
      | none => .ok []
    appended.bind fun appendTokens =>
      let sourceTokens :=
        match getHeaderValueFromContext engine context name with
        | some value => splitHeaderListValue value
        | none => []
      (sourceTokens.mapM (replacementOf mapping)).map fun replaced =>
        let tokens := (replaced.flatten ++ appendTokens).eraseDups
        if tokens = [] then none else some (",".intercalate tokens)

def resolveHeaderOverrideValue (context : OverrideContext) (name : String) :
    JsonValue → Except String (Option String)
  | .null => .error "header value is required"
  | .object mapping => resolveHeaderOverrideValueByMapping engine context name mapping
  | value =>
    .ok (if trimSpace value.print = "" then none
      else some (trimSpace value.print))

def OverrideContext.withHeaders (context : OverrideContext) (headers : Headers) : OverrideContext :=
  { context with headerOverride := headers }

def setHeaderOverrideInContext (context : OverrideContext) (name : String) (value : JsonValue)
    (keepOrigin : Bool) : Except String OverrideContext :=
  let name := normalizeHeaderContextKey engine name
  if name = "" then .error "header name is required"
  else if keepOrigin ∧
      ((context.headerOverride.get name).any fun old =>
        trimSpace old ≠ "") then
    .ok context
  else
    (resolveHeaderOverrideValue engine context name value).map fun resolved =>
      match resolved with
      | none => context.withHeaders (context.headerOverride.remove name)
      | some text => context.withHeaders (context.headerOverride.set name text)

def deleteHeaderOverrideInContext (context : OverrideContext) (name : String) :
    Except String OverrideContext :=
  let name := normalizeHeaderContextKey engine name
  if name = "" then .error "header name is required"
  else .ok (context.withHeaders (context.headerOverride.remove name))

def copyHeaderInContext (context : OverrideContext) (fromHeader toHeader : String)
    (keepOrigin : Bool) : Except String (Option OverrideContext) :=
  let fromHeader := normalizeHeaderContextKey engine fromHeader
  let toHeader := normalizeHeaderContextKey engine toHeader
  if fromHeader = "" ∨ toHeader = "" then .error "copy_header from/to is required"
  else
    match getHeaderValueFromContext engine context fromHeader with
    | none => .ok none
    | some value =>
      (setHeaderOverrideInContext engine context toHeader (.string value) keepOrigin).map some

def moveHeaderInContext (context : OverrideContext) (fromHeader toHeader : String)
    (keepOrigin : Bool) : Except String (Option OverrideContext) :=
  let fromHeader := normalizeHeaderContextKey engine fromHeader
  let toHeader := normalizeHeaderContextKey engine toHeader
  if fromHeader = "" ∨ toHeader = "" then .error "move_header from/to is required"
  else
    (copyHeaderInContext engine context fromHeader toHeader keepOrigin).bind
      fun copied =>
        match copied with
        | none => .ok none
        | some context =>
          if equalFold engine.mapping fromHeader toHeader then .ok (some context)
          else (deleteHeaderOverrideInContext engine context fromHeader).map some

/-- The loop of `pass_headers`: a header the client did not send is passed
over. -/
def passHeaders (keepOrigin : Bool) :
    OverrideContext → List String → Except String OverrideContext
  | context, [] => .ok context
  | context, name :: names =>
    (copyHeaderInContext engine context name name keepOrigin).bind fun copied =>
      passHeaders keepOrigin (copied.getD context) names

/-- A side of `sync_fields`. -/
inductive SyncTarget where
  | json (path : String)
  | header (name : String)
deriving DecidableEq

def parseSyncTarget (spec : String) : Except String SyncTarget :=
  let raw := trimSpace spec
  if raw = "" then .error "sync_fields target is required"
  else
    let before := raw.toList.takeWhile (· ≠ ':')
    match raw.toList.dropWhile (· ≠ ':') with
    | [] => .ok (.json raw)
    | _ :: after =>
      let kind := toLower engine.mapping (trimSpace (String.ofList before))
      let key := trimSpace (String.ofList after)
      if key = "" then .error ("sync_fields target key is required: " ++ raw)
      else if kind = "json" ∨ kind = "body" then .ok (.json key)
      else if kind = "header" then .ok (.header key)
      else .error ("sync_fields target prefix is invalid: " ++ raw)

def readSyncTargetValue (body : β) (context : OverrideContext) : SyncTarget → Option JsonValue
  | .json path =>
    (engine.readPath body path).bind fun value =>
      match value with
      | .null => none
      | .string text =>
        if trimSpace text = "" then none else some (.string text)
      | value => some value
  | .header name => (getHeaderValueFromContext engine context name).map .string

def writeSyncTargetValue (body : β) (context : OverrideContext) (value : JsonValue) :
    SyncTarget → Except String (β × OverrideContext)
  | .json path => (engine.writePath body path value).map fun next => (next, context)
  | .header name =>
    (setHeaderOverrideInContext engine context name value false).map fun next => (body, next)

def syncFieldsBetweenTargets (body : β) (context : OverrideContext) (fromSpec toSpec : String) :
    Except String (β × OverrideContext) :=
  (parseSyncTarget engine fromSpec).bind fun fromTarget =>
    (parseSyncTarget engine toSpec).bind fun toTarget =>
      match readSyncTargetValue engine body context fromTarget,
          readSyncTargetValue engine body context toTarget with
      | some value, none => writeSyncTargetValue engine body context value toTarget
      | none, some value => writeSyncTargetValue engine body context value fromTarget
      | _, _ => .ok (body, context)

def headerEnds (operation : ParamOperation) : String × String :=
  let orPath (name : String) :=
    if trimSpace name = "" then trimSpace operation.path else trimSpace name
  (orPath operation.source, orPath operation.target)

/-- The cases of an operation on headers; `none` for every other mode. -/
def headerOperation (mode : String) (body : β) (context : OverrideContext)
    (operation : ParamOperation) :
    Option (Except String (β × OverrideContext)) :=
  let keep (found : Except String (Option OverrideContext)) :=
    found.map fun changed => (body, changed.getD context)
  if mode = "set_header" then
    some ((setHeaderOverrideInContext engine context operation.path
      operation.value operation.keepOrigin).map fun next => (body, next))
  else if mode = "delete_header" then
    some ((deleteHeaderOverrideInContext engine context operation.path).map
      fun next => (body, next))
  else if mode = "copy_header" then
    some (keep (copyHeaderInContext engine context (headerEnds operation).1
      (headerEnds operation).2 operation.keepOrigin))
  else if mode = "move_header" then
    some (keep (moveHeaderInContext engine context (headerEnds operation).1
      (headerEnds operation).2 operation.keepOrigin))
  else if mode = "pass_headers" then
    some ((engine.parseHeaderPassThroughNames operation.value).bind fun names =>
      (passHeaders engine operation.keepOrigin context names).map fun next => (body, next))
  else if mode = "sync_fields" then
    some (syncFieldsBetweenTargets engine body context operation.source operation.target)
  else none

def applyOperations (recorded : Bool) :
    β → OverrideContext → List ParamOperation → Except String (β × OverrideContext)
  | body, context, [] => .ok (body, context)
  | body, context, operation :: operations =>
    (engine.checkConditions recorded body context operation).bind fun holds =>
      if holds then
        ((headerOperation engine operation.mode body context operation).getD
          ((engine.bodyOperation body context operation).map fun next =>
            (next, context))).bind fun (body, context) =>
              applyOperations recorded body context operations
      else applyOperations recorded body context operations

def paramOverrideSensitivePathPrefixes : List String :=
  ["model", "original_model", "upstream_model", "reasoning",
    "reasoning_effort", "output_config", "generationConfig.thinkingConfig",
    "generation_config.thinking_config", "service_tier", "inference_geo",
    "speed", "messages", "input", "instructions", "system", "contents",
    "systemInstruction", "system_instruction"]

def shouldAuditParamPath (path : String) : Bool :=
  let path := trimSpace path
  path ≠ "" && (engine.debugEnabled ||
    paramOverrideSensitivePathPrefixes.any fun start =>
      path = start || hasPrefix path (start ++ "."))

def shouldEnableParamOverrideAudit (override : ParamOverride) : Bool :=
  engine.debugEnabled ||
    (override.operations.getD []).any (fun operation =>
      [operation.path, operation.source, operation.target].any (shouldAuditParamPath engine)) ||
    override.legacy.any fun entry => shouldAuditParamPath engine entry.1

/-- `ApplyParamOverride` on a map that is not empty; its caller has put the
audit recorder into the context where it is enabled. -/
def applyParamOverride (body : β) (override : ParamOverride) (context : OverrideContext) :
    Except String (β × OverrideContext) :=
  match override.operations with
  | some operations =>
    (if override.legacy = [] then .ok body
      else engine.applyOperationsLegacy body override.legacy).bind
        fun body =>
          applyOperations engine (shouldEnableParamOverrideAudit engine override)
            body context operations
  | none =>
    (engine.applyOperationsLegacy body override.legacy).map fun next => (next, context)

def syncRuntimeHeaderOverrideFromContext (ranging : Ranging)
    (info : RelayInfo) (context : OverrideContext) : RelayInfo :=
  { info with
    runtimeHeadersOverride :=
      sanitizeHeaderOverrideMap engine ranging context.headerOverride.values
    useRuntimeHeadersOverride := true }

def getParamOverrideMap (info : RelayInfo) : ParamOverride :=
  match info.channelMeta with
  | some channel => channel.paramOverride
  | none => ⟨none, []⟩

/-- `ApplyParamOverrideWithRelayInfo`: the info after it, and whether it
returned no error. -/
def applyParamOverrideWithRelayInfo (ranging : Ranging) (body : β) (info : RelayInfo) :
    RelayInfo × Bool :=
  let override := getParamOverrideMap info
  if override.isEmpty then (info, true)
  else
    match
      applyParamOverride engine body override (buildParamOverrideContext engine ranging info)
    with
    | .ok (_, context) => (syncRuntimeHeaderOverrideFromContext engine ranging info context, true)
    | .error _ => (info, false)

/-- The loop of `ApplyHeaderOverrideOperationsWithRelayInfo`: modes are
trimmed and in lower case, and what does not touch headers is passed over. -/
def applyHeaderOperations :
    OverrideContext → List ParamOperation → Except String OverrideContext
  | context, [] => .ok context
  | context, operation :: operations =>
    (engine.checkConditions false engine.emptyBody context operation).bind
      fun holds =>
        if holds then
          let mode := toLower engine.mapping (trimSpace operation.mode)
          let result : Except String OverrideContext :=
            if mode = "sync_fields" then
              (parseSyncTarget engine operation.source).bind fun fromTarget =>
                (parseSyncTarget engine operation.target).bind fun toTarget =>
                  match fromTarget, toTarget with
                  | .header _, .header _ =>
                    (syncFieldsBetweenTargets engine engine.emptyBody
                      context operation.source operation.target).map Prod.snd
                  | _, _ => .ok context
            else
              match headerOperation engine mode engine.emptyBody context operation with
              | some changed => changed.map Prod.snd
              | none => .ok context
          result.bind fun context => applyHeaderOperations context operations
        else applyHeaderOperations context operations

def applyHeaderOverrideOperationsWithRelayInfo (ranging : Ranging) (info : RelayInfo) :
    RelayInfo × Bool :=
  match (getParamOverrideMap info).operations with
  | none => (info, true)
  | some [] => (info, true)
  | some operations =>
    match
      applyHeaderOperations engine (buildParamOverrideContext engine ranging info) operations
    with
    | .ok context => (syncRuntimeHeaderOverrideFromContext engine ranging info context, true)
    | .error _ => (info, false)

/-- Which of the two functions applies the override of an attempt. -/
inductive OverrideCall (β : Type) where
  | params (body : β)
  | headers

/-- An attempt of a request: the state of the retries, the configuration of
the channel, the call that applies it, and its orders of ranging. -/
structure RelayAttempt (β : Type) where
  retry : RetryContext
  paramOverride : ParamOverride
  headersOverride : List (String × JsonValue)
  call : OverrideCall β
  ranging : Ranging

def initChannelMeta (info : RelayInfo) (attempt : RelayAttempt β) : RelayInfo :=
  { info with
    retry := attempt.retry
    channelMeta := some
      { upstreamModelName := info.client.originModelName
        paramOverride := attempt.paramOverride
        headersOverride := attempt.headersOverride } }

def relayAttempt (info : RelayInfo) (attempt : RelayAttempt β) : RelayInfo :=
  let info := initChannelMeta info attempt
  match attempt.call with
  | .params body => (applyParamOverrideWithRelayInfo engine attempt.ranging body info).1
  | .headers => (applyHeaderOverrideOperationsWithRelayInfo engine attempt.ranging info).1

def newRelayInfo (client : ClientRequest) : RelayInfo where
  client := client
  retry := ⟨"", 0, none⟩
  channelMeta := none
  runtimeHeadersOverride := []
  useRuntimeHeadersOverride := false

def relayAttempts (client : ClientRequest) (attempts : List (RelayAttempt β)) : RelayInfo :=
  attempts.foldl (relayAttempt engine) (newRelayInfo client)

/-- The headers that the last attempt is called with, as one more call ranges
over them. -/
def effectiveHeaders (client : ClientRequest) (attempts : List (RelayAttempt β))
    (ranging : Ranging) : Headers :=
  getEffectiveHeaderOverride engine ranging (relayAttempts engine client attempts)

end Engine

end NewApi.Relay
