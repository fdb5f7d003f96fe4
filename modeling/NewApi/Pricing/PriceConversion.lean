import NewApi.Lib.GoStrings
import NewApi.Pricing.TextQuota

/-!
# From ratios to a price expression

`PreviewModelPricingConversion` turns the ratios of a token-priced model into a
price expression.  Categories that cost the same as the input are left out and
stay in `p`.
-/

namespace NewApi.Pricing

open GoStrings

structure TokenPricing where
  modelRatio : Option Rat
  completionRatio : Rat
  cacheRatio : Rat
  createCacheRatio : Rat
  imageRatio : Rat
  audioRatio : Option Rat := none
  audioCompletionRatio : Option Rat := none
  deriving DecidableEq, Repr

/-- The model being converted.  `createCacheConfigured` says that the draft has
a cache-creation ratio of its own, and `geminiInputAudioPrice` is the dedicated
price of a million audio tokens, zero when there is none. -/
structure ConversionInput where
  quotaPerUnit : Rat
  name : String
  createCacheConfigured : Bool
  geminiInputAudioPrice : Rat
  effective : TokenPricing
  deriving DecidableEq, Repr

def legacyInputPricePerMillion (quotaPerUnit ratio : Rat) : Except String Rat :=
  if quotaPerUnit ≤ 0 then .error "invalid quota unit"
  else if ratio < 0 then .error "input ratio must be finite and non-negative"
  else .ok (ratio * 1000000 / quotaPerUnit)

inductive CacheWriteMode where
  | none
  | standard
  | claudeTTL
  deriving DecidableEq, Repr

/-- No other character has an ASCII letter of `claude` as its lower case, so
lowering the ASCII letters decides the test. -/
def claudeNamed (name : String) : Bool :=
  contains (String.ofList (name.toList.map Char.toLower)) "claude"

def resolveCacheWriteMode (name : String) (createCacheConfigured : Bool) : CacheWriteMode :=
  if claudeNamed name then .claudeTTL
  else if createCacheConfigured then .standard
  else .none

structure LegacyBillingDetails where
  audioInputPrice : Option Rat := none
  audioOutputPrice : Option Rat := none
  audioTextBranches : Bool := false
  conflictingAudioPrices : Bool := false
  deriving DecidableEq, Repr

def resolveLegacyBillingDetails (input : ConversionInput) : LegacyBillingDetails :=
  let effective := input.effective
  match effective.modelRatio with
  | none => {}
  | some ratio =>
    match legacyInputPricePerMillion input.quotaPerUnit ratio with
    | .error _ => {}
    | .ok base =>
      let unset := effective.audioRatio = none ∧ effective.audioCompletionRatio = none
      let audioPrice := base * effective.audioRatio.getD 1
      let audioOutput := audioPrice * effective.audioCompletionRatio.getD 1
      if 0 < input.geminiInputAudioPrice then
        -- A configured audio ratio must not silently replace the dedicated
        -- price.
        { audioInputPrice := some input.geminiInputAudioPrice
          conflictingAudioPrices :=
            !decide unset &&
              (decide (audioPrice ≠ input.geminiInputAudioPrice) ||
                decide (audioOutput ≠ base * effective.completionRatio)) }
      else if unset then
        {}
      else
        { audioInputPrice := some audioPrice
          audioOutputPrice := some audioOutput
          audioTextBranches :=
            decide (effective.cacheRatio ≠ 1) ||
              decide (effective.imageRatio ≠ 1) ||
              decide (resolveCacheWriteMode input.name input.createCacheConfigured ≠ .none) }

structure PriceLane where
  variable_ : PriceVar
  price : Rat
  deriving DecidableEq, Repr

def addLanes (start : PriceExpr) (lanes : List PriceLane) : PriceExpr :=
  lanes.foldl (fun sum lane => .add sum (.mul (.var lane.variable_) (.num lane.price))) start

/-- Whether cache reads at the input price may stay in `p`. -/
def mergeCacheRead (base : Rat) (mode : CacheWriteMode) (effective : TokenPricing)
    (details : LegacyBillingDetails) : Bool :=
  decide (base = 0) ||
    (decide (mode = .none) && decide (effective.imageRatio = 1) &&
      (details.audioInputPrice.isNone || details.audioOutputPrice.isSome))

/-- The lanes of the text categories.  `onlyCompletion` stands for an audio
price that the text categories do not differ from. -/
def textLanes (base : Rat) (mode : CacheWriteMode) (effective : TokenPricing)
    (merge onlyCompletion : Bool) : List PriceLane :=
  let lane (variable_ : PriceVar) (ratio multiplier : Rat) : PriceLane :=
    ⟨variable_, base * ratio * multiplier⟩
  [lane .c effective.completionRatio 1] ++
    (if onlyCompletion then []
    else
      (if merge ∧ effective.cacheRatio = 1 then []
        else [lane .cr effective.cacheRatio 1]) ++
      (if mode = .none then [] else [lane .cc effective.createCacheRatio 1]) ++
      (if mode = .claudeTTL then
        [lane .cc1h effective.createCacheRatio (6 / 3.75)]
        else []) ++
      (if effective.imageRatio = 1 then []
        else [lane .img effective.imageRatio 1]))

def audioLanes (details : LegacyBillingDetails) : List PriceLane :=
  (details.audioInputPrice.map (PriceLane.mk .ai)).toList ++
    (details.audioOutputPrice.map (PriceLane.mk .ao)).toList

structure ModelPricingConversion where
  cacheWriteMode : CacheWriteMode
  billingDetails : LegacyBillingDetails
  expression : PriceExpr
  deriving DecidableEq, Repr

def baseTier (base : Rat) (mode : CacheWriteMode) (effective : TokenPricing)
    (details : LegacyBillingDetails) : PriceExpr :=
  let onlyCompletion := details.audioOutputPrice.isSome && !details.audioTextBranches
  .tier "base"
    (addLanes (.mul (.var .p) (.num base))
      (textLanes base mode effective
          (mergeCacheRead base mode effective details) onlyCompletion ++
        if details.audioTextBranches then [] else audioLanes details))

def audioTier (base completionRatio audioInputPrice audioOutputPrice : Rat) :
    PriceExpr :=
  .tier "audio"
    (addLanes
      (.mul (.max (.sub (.var .len) (.var .ai)) (.num 0)) (.num base))
      [⟨.c, base * completionRatio⟩, ⟨.ai, audioInputPrice⟩, ⟨.ao, audioOutputPrice⟩])

/-- The two texts an administrator is shown in place of an expression. -/
inductive UnsupportedReason where
  | conflictingAudioPrices
  | inputPriceMissing
  deriving DecidableEq, Repr

def UnsupportedReason.text : UnsupportedReason → String
  | .conflictingAudioPrices =>
    "Gemini and OpenAI audio prices differ for this model. Use separate billing model names to convert them."
  | .inputPriceMissing => "Configure an input price before converting this model."

/-- The conversion of a token price: an error, an explanation why it is not
supported, or an expression. -/
def previewModelPricingConversion (input : ConversionInput) :
    Except String (UnsupportedReason ⊕ ModelPricingConversion) := do
  let effective := input.effective
  let details := resolveLegacyBillingDetails input
  if details.conflictingAudioPrices then return .inl .conflictingAudioPrices
  match effective.modelRatio with
  | none => return .inl .inputPriceMissing
  | some ratio =>
    let mode := resolveCacheWriteMode input.name input.createCacheConfigured
    let base ← legacyInputPricePerMillion input.quotaPerUnit ratio
    let details : LegacyBillingDetails :=
      { details with
        audioTextBranches :=
          details.audioTextBranches || (details.audioOutputPrice.isSome && decide (mode ≠ .none)) }
    let text := baseTier base mode effective details
    let expression :=
      match details.audioInputPrice, details.audioOutputPrice with
      | some audioInput, some audioOutput =>
        if details.audioTextBranches then
          .ite (.or (.gt .ai 0) (.gt .ao 0))
            (audioTier base effective.completionRatio audioInput audioOutput)
            text
        else text
      | _, _ => text
    return .inr
      { cacheWriteMode := mode
        billingDetails := details
        expression := expression }

end NewApi.Pricing
