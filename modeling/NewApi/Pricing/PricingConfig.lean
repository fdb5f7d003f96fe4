import Mathlib.Data.List.AList
import NewApi.Lib.Transactions
import NewApi.Pricing.ModelRatio

/-!
# Stored model pricing

The pricing of all models lives in option rows, one JSON object per kind of
price with the model names as keys.  `PreviewModelPricing` shows what a draft
would make of a model, `UpdateModelPricing` writes it.
-/

namespace NewApi.Pricing

open GoStrings Transactions

/-- A decoded JSON value; anything but a number or a string is `other`. -/
inductive PricingValue where
  | number (value : Rat)
  | text (value : String)
  | other (json : String)
  deriving DecidableEq, Repr

def PricingValue.textOf : Option PricingValue → String
  | some (.text content) => content
  | _ => ""

inductive PricingKey where
  | audioCompletionRatio
  | audioRatio
  | cacheRatio
  | completionRatio
  | createCacheRatio
  | imageRatio
  | modelPrice
  | modelRatio
  | billingExpr
  | billingMode
  deriving DecidableEq, Repr

def PricingKey.optionName : PricingKey → String
  | audioCompletionRatio => "AudioCompletionRatio"
  | audioRatio => "AudioRatio"
  | cacheRatio => "CacheRatio"
  | completionRatio => "CompletionRatio"
  | createCacheRatio => "CreateCacheRatio"
  | imageRatio => "ImageRatio"
  | modelPrice => "ModelPrice"
  | modelRatio => "ModelRatio"
  | billingExpr => "billing_setting.billing_expr"
  | billingMode => "billing_setting.billing_mode"

def PricingKey.all : List PricingKey :=
  [audioCompletionRatio, audioRatio, cacheRatio, completionRatio,
    createCacheRatio, imageRatio, modelPrice, modelRatio, billingExpr,
    billingMode]

/-- The keys that hold numbers, `modelPricingOptionKeys[:8]`. -/
def PricingKey.numeric : PricingKey → Bool
  | billingExpr => false
  | billingMode => false
  | _ => true

def billingModeRatio : String := "ratio"

def billingModeTieredExpr : String := "tiered_expr"

abbrev PricingMap := AList (fun _ : String => PricingValue)

/-- The decoded options.  The keys of `pluginExprs` join a plugin and a
model. -/
structure PricingMaps where
  entries : PricingKey → PricingMap
  pluginExprs : PricingMap

/-- The expressions of single plugins in the configuration of one model. -/
inductive VariantsField where
  | absent
  | malformed
  | object (variants : List (String × PricingValue))
  deriving DecidableEq, Repr

def VariantsField.variants : VariantsField → List (String × PricingValue)
  | object variants => variants
  | _ => []

/-- One model's configuration.  `unsupported` are the fields of a draft that
are no pricing options. -/
structure PricingValues where
  value : PricingKey → Option PricingValue
  variants : VariantsField := .absent
  unsupported : List String := []

def validPluginChar (char : Char) : Bool := ('a' ≤ char && char ≤ 'z') || ('0' ≤ char && char ≤ '9')

/-- The pattern `^[a-z0-9][a-z0-9_-]*$`, at most thirty characters. -/
def validPluginKey (key : String) : Bool :=
  decide (key.toList.length ≤ 30) &&
    match key.toList with
    | [] => false
    | first :: rest =>
      validPluginChar first &&
        rest.all (fun char => validPluginChar char || char == '_' || char == '-')

def pluginBillingExprKey (pluginKey model : String) : String :=
  String.ofList (pluginKey.toList ++ ':' :: ':' :: model.toList)

def cutColons : List Char → Option (List Char × List Char)
  | ':' :: ':' :: rest => some ([], rest)
  | char :: rest => (cutColons rest).map (fun (before, after) => (char :: before, after))
  | [] => none

def splitPluginBillingExprKey (key : String) : Option (String × String) := do
  let (plugin, model) ← cutColons key.toList
  let plugin := String.ofList plugin
  let model := String.ofList model
  if validPluginKey plugin && decide (trimSpace model ≠ "") then some (plugin, model)
  else none

/-- Whether a key holds a plugin expression of the model. -/
def isVariantOf (name key : String) : Bool :=
  match splitPluginBillingExprKey key with
  | some (_, model) => decide (model = name)
  | none => false

structure Plugin where
  key : String
  models : List String
  deriving DecidableEq, Repr

structure PluginRegistry where
  plugins : List Plugin
  keysValid : ∀ plugin ∈ plugins, validPluginKey plugin.key = true

namespace PluginRegistry

def get (registry : PluginRegistry) (key : String) : Option Plugin :=
  registry.plugins.find? (fun plugin => decide (plugin.key = key))

def pluginsByModel (registry : PluginRegistry) (model : String) :
    List Plugin :=
  if model = "" then []
  else registry.plugins.filter (fun plugin => decide (model ∈ plugin.models))

def sharedModel (registry : PluginRegistry) (model : String) : Bool :=
  decide (2 ≤ (registry.pluginsByModel model).length)

end PluginRegistry

/-- What reading and writing prices depends on beside the rows.  Compiling an
expression and trying it on sample usages, the hash of a configuration and the
task aliases of channels are parameters. -/
structure PricingEnv where
  builtinBillingExpr : AList (fun _ : String => String)
  defaultPricingMaps : PricingMaps
  selfUseModeEnabled : Bool
  registry : PluginRegistry
  modelPricingVersion : PricingValues → String
  compileFromCache : String → Except String Unit
  usesUsageKeys : String → Bool
  smokeTestExpr : String → Except String Unit
  smokeTestTaskExpr : String → Plugin → String → Except String Unit
  resolveTaskModelAlias : String → Option (String × String)
  sprintValue : PricingValue → String

/-- The stored rows; a missing row stands for the defaults. -/
structure OptionRows where
  entries : PricingKey → Option PricingMap
  pluginExprs : Option PricingMap

def readModelPricingMaps (env : PricingEnv) (rows : OptionRows) :
    PricingMaps where
  entries key := (rows.entries key).getD (env.defaultPricingMaps.entries key)
  pluginExprs := rows.pluginExprs.getD env.defaultPricingMaps.pluginExprs

def canonicalBillingMode : PricingValue → Option String
  | .text mode =>
    if mode = billingModeRatio ∨ mode = "per-request" ∨ mode = "per-token"
    then some billingModeRatio
    else if mode = billingModeTieredExpr then some billingModeTieredExpr
    else none
  | _ => none

def canonicalizePricingValues (values : PricingValues) : PricingValues :=
  match (values.value .billingMode).bind canonicalBillingMode with
  | some mode =>
    { values with value := Function.update values.value .billingMode (some (.text mode)) }
  | none => values

def modelVariants (pluginExprs : PricingMap) (name : String) :
    List (String × PricingValue) :=
  pluginExprs.entries.filterMap (fun entry =>
    match splitPluginBillingExprKey entry.1 with
    | some (plugin, model) =>
      if model = name then some (plugin, entry.2) else none
    | none => none)

def modelPricingValues (maps : PricingMaps) (name : String) :
    PricingValues where
  value key := (maps.entries key).lookup name
  variants :=
    match modelVariants maps.pluginExprs name with
    | [] => .absent
    | variants => .object variants

/-- The configuration of a model, with the numbers of its wildcard name in
place of its own. -/
def aliasedPricingValues (maps : PricingMaps) (name : String) :
    PricingValues :=
  let own := modelPricingValues maps name
  { own with
    value := fun key =>
      if key.numeric then
        ((maps.entries key).lookup (formatMatchingModelName name)).or (own.value key)
      else own.value key }

/-- The billing mode of a configuration.  A built-in expression counts as
long as no price or ratio is configured. -/
def effectiveMode (env : PricingEnv) (name : String) (values : PricingValues) : String :=
  let mode := PricingValue.textOf (values.value .billingMode)
  if mode = "" ∧ (env.builtinBillingExpr.lookup name).isSome ∧
      (values.value .modelPrice).isNone ∧ (values.value .modelRatio).isNone
  then billingModeTieredExpr
  else mode

def withTokenDefaults (env : PricingEnv) (name : String) (values : PricingValues) :
    PricingValues :=
  let configured :=
    match values.value .completionRatio with
    | some (.number ratio) => some ratio
    | _ => none
  { values with
    value := fun key =>
      match key with
      | .modelRatio =>
        (values.value .modelRatio).or (if env.selfUseModeEnabled then some (.number 37.5) else none)
      | .completionRatio => some (.number (resolveCompletionRatio name configured).ratio)
      | .cacheRatio => (values.value .cacheRatio).or (some (.number defaultCacheRatio))
      | .createCacheRatio =>
        (values.value .createCacheRatio).or (some (.number defaultCreateCacheRatio))
      | .imageRatio => (values.value .imageRatio).or (some (.number defaultImageRatio))
      | other => values.value other }

def withExpression (env : PricingEnv) (name : String) (values : PricingValues) :
    PricingValues :=
  { values with
    value := fun key =>
      match key with
      | .billingMode => some (.text billingModeTieredExpr)
      | .billingExpr =>
        (values.value .billingExpr).or ((env.builtinBillingExpr.lookup name).map .text)
      | other => values.value other }

/-- The second half of `effectiveModelPricing`: fill in what a configuration
leaves to the engine. -/
def effectiveValues (env : PricingEnv) (name : String) (values : PricingValues) :
    PricingValues :=
  if effectiveMode env name values = billingModeTieredExpr then withExpression env name values
  else if (values.value .modelPrice).isSome then values
  else withTokenDefaults env name values

def effectiveModelPricing (env : PricingEnv) (maps : PricingMaps) (name : String) : PricingValues :=
  effectiveValues env name (aliasedPricingValues maps name)

/-- Drop the plugin expressions of a model, then store the ones of the
draft. -/
def replaceVariants (pluginExprs : PricingMap) (name : String)
    (variants : List (String × PricingValue)) : PricingMap :=
  let kept :=
    pluginExprs.entries.foldl
      (fun kept entry => if isVariantOf name entry.1 then kept.erase entry.1 else kept)
      pluginExprs
  variants.foldl
    (fun stored variant => stored.insert (pluginBillingExprKey variant.1 name) variant.2)
    kept

def replaceModelPricing (maps : PricingMaps) (name : String) (draft : PricingValues) :
    PricingMaps where
  entries key :=
    let cleared := (maps.entries key).erase name
    match draft.value key with
    | some value => cleared.insert name value
    | none => cleared
  pluginExprs := replaceVariants maps.pluginExprs name draft.variants.variants

/-- One round of `stripDisplayOnlyBuiltinPricing`: forget a mode and an
expression that only repeat a built-in expression, unless one of them was
stored before. -/
def stripBuiltin (previous : PricingMaps) (maps : PricingMaps) (name builtin : String) :
    PricingMaps :=
  if ((previous.entries .billingMode).lookup name).isSome then maps
  else if ((previous.entries .billingExpr).lookup name).isSome then maps
  else
    let mode := PricingValue.textOf ((maps.entries .billingMode).lookup name)
    let expr := PricingValue.textOf ((maps.entries .billingExpr).lookup name)
    if mode ≠ "" ∧ mode ≠ billingModeTieredExpr then maps
    else if expr ≠ "" ∧ expr ≠ builtin then maps
    else
      { maps with
        entries := fun key =>
          if key.numeric then maps.entries key
          else (maps.entries key).erase name }

def stripDisplayOnlyBuiltinPricing (env : PricingEnv) (previous maps : PricingMaps) : PricingMaps :=
  env.builtinBillingExpr.entries.foldl
    (fun maps entry => stripBuiltin previous maps entry.1 entry.2)
    maps

section Validation

variable (env : PricingEnv) (name : String)

/-- The expression of one plugin.  An unchanged one stays accepted after its
plugin disappears. -/
def validateVariant (previous : PricingValues) (variant : String × PricingValue) :
    Except String Unit :=
  let key := variant.1
  let expression := PricingValue.textOf (some variant.2)
  let declaring := (env.registry.get key).filter (fun plugin => decide (name ∈ plugin.models))
  if trimSpace expression = "" then
    throw s!"model {name}: plugin {key}: billing expression is required"
  else if previous.variants.variants.lookup key = some (.text expression) ∧
      (declaring.isNone ∨ !env.registry.sharedModel name) then
    return
  else
    match declaring with
    | none => throw s!"model {name}: plugin {key} does not declare this model"
    | some plugin =>
      match env.smokeTestTaskExpr expression plugin name with
      | .error err => throw s!"model {name}: plugin {key}: {err}"
      | .ok _ => return

def smokeTestModelExpr (values previous : PricingValues) (expression : String) :
    Except String Unit := do
  let unchanged := decide (previous.value .billingExpr = some (.text expression))
  let overridden (variants : VariantsField) (plugin : Plugin) : Bool :=
    (variants.variants.lookup plugin.key).isSome
  match env.registry.pluginsByModel name with
  | [] =>
    match env.resolveTaskModelAlias name with
    | some (pluginKey, declared) =>
      match env.registry.get pluginKey with
      | some plugin =>
        if !unchanged || env.registry.sharedModel declared then
          env.smokeTestTaskExpr expression plugin declared
      | none => env.smokeTestExpr expression
    | none =>
      if !unchanged || !env.usesUsageKeys expression then env.smokeTestExpr expression
  | plugins =>
    plugins.forM (fun plugin =>
      if overridden values.variants plugin ||
          (unchanged && !overridden previous.variants plugin &&
            decide (plugins.length = 1)) then
        return
      else
        match env.smokeTestTaskExpr expression plugin name with
        | .error err => throw s!"plugin {plugin.key}: {err}"
        | .ok _ => return)

def validateField (values previous : PricingValues) (key : PricingKey) :
    Except String Unit :=
  match values.value key with
  | none => return
  | some value =>
    match key with
    | .billingMode =>
      if (canonicalBillingMode value).isSome then return
      else throw "invalid billing mode"
    | .billingExpr =>
      let expression := PricingValue.textOf (some value)
      if trimSpace expression = "" then throw "billing expression is required"
      else
        match env.compileFromCache expression with
        | .error err => throw s!"model {name}: {err}"
        | .ok _ =>
          match smokeTestModelExpr env name values previous expression with
          | .error err => throw s!"model {name}: {err}"
          | .ok _ => return
    | numeric =>
      match value with
      | .number number =>
        if number < 0 then throw s!"{numeric.optionName} must be a finite, non-negative number"
        else return
      | _ => throw s!"{numeric.optionName} must be a finite, non-negative number"

def validateModelPricing (values previous : PricingValues) :
    Except String Unit :=
  if trimSpace name = "" then throw "model name is required"
  else if values.variants = .malformed then
    throw "plugin billing expressions must be a plugin-to-expression object"
  else do
    values.variants.variants.forM (validateVariant env name previous)
    values.unsupported.forM (fun field => throw s!"unsupported pricing field: {field}")
    PricingKey.all.forM (validateField env name values previous)
    if values.value .billingMode = some (.text billingModeTieredExpr) ∧
        (values.value .billingExpr).isNone ∧
        (env.builtinBillingExpr.lookup name).isNone then
      throw "billing expression is required"
    else return

def sprint : Option PricingValue → String
  | some (.text content) => content
  | some value => env.sprintValue value
  | none => "<nil>"

def rejectChangedUndeclaredPluginPricing
    (stored : PricingMaps) (next : PricingValues) : Except String Unit :=
  let known := (env.registry.pluginsByModel name).map Plugin.key
  let current := (modelPricingValues stored name).variants.variants
  next.variants.variants.forM (fun (plugin, raw) =>
    if plugin ∈ known then return
    else if sprint env (current.lookup plugin) = sprint env (some raw) then return
    else throw s!"plugin {plugin} does not declare this model")

end Validation

def previewModelPricing (env : PricingEnv) (rows : OptionRows) (name : String)
    (draft : Option PricingValues) : Except String PricingValues :=
  match draft with
  | none => throw "pricing draft is required"
  | some draft => do
      let maps := readModelPricingMaps env rows
      validateModelPricing env name draft (modelPricingValues maps name)
      return effectiveModelPricing env (replaceModelPricing maps name draft) name

structure ModelPricingChange where
  modelName : String
  expectedVersion : String
  pricing : Option PricingValues
  reset : Bool := false

def errModelPricingConflict : String := "model pricing changed; reload before saving"

def checkChanges (changes : List ModelPricingChange) :
    List String → Except String Unit :=
  match changes with
  | [] => fun _ => return
  | change :: rest => fun seen =>
    if change.modelName ∈ seen then throw "duplicate model pricing change"
    else if change.expectedVersion = "" then throw errModelPricingConflict
    else checkChanges rest (change.modelName :: seen)

def ModelPricingChange.target (env : PricingEnv) (change : ModelPricingChange) : PricingValues :=
  if change.reset then modelPricingValues env.defaultPricingMaps change.modelName
  else
    canonicalizePricingValues (change.pricing.getD { value := fun _ => none })

def applyChange (env : PricingEnv) (maps : PricingMaps) (change : ModelPricingChange) :
    Except String PricingMaps :=
  let previous := modelPricingValues maps change.modelName
  let pricing := change.target env
  if env.modelPricingVersion previous ≠ change.expectedVersion then
    throw s!"{errModelPricingConflict}: {change.modelName}"
  else do
    validateModelPricing env change.modelName pricing previous
    rejectChangedUndeclaredPluginPricing env change.modelName maps pricing
    return replaceModelPricing maps change.modelName pricing

/-- The statements of the transaction that fail, if any. -/
structure StatementFaults where
  create : Option String := none
  update : Option String := none

def failWith : Option String → Except String Unit
  | some err => throw err
  | none => return

def updateModelPricing (env : PricingEnv) (faults : StatementFaults) (rows : OptionRows)
    (changes : List ModelPricingChange) : Except String OptionRows :=
  if changes.isEmpty then throw "select model pricing changes before saving"
  else do
    checkChanges changes []
    let maps := readModelPricingMaps env rows
    failWith faults.create
    let changed ← changes.foldlM (applyChange env) maps
    let saved := stripDisplayOnlyBuiltinPricing env maps changed
    failWith faults.update
    return {
      entries := fun key => some (saved.entries key)
      pluginExprs := some saved.pluginExprs }

def rowsAfterUpdate (env : PricingEnv) (faults : StatementFaults) (rows : OptionRows)
    (changes : List ModelPricingChange) : OptionRows :=
  commit rows (updateModelPricing env faults rows changes)

end NewApi.Pricing
