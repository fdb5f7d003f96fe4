import Mathlib.Algebra.Order.Field.Rat
import Mathlib.Data.Rat.Floor

/-!
# What a text request costs

Ratio billing (`calculateTextQuotaSummary`) multiplies token counts by the
ratios of the model.  Expression billing evaluates a price expression on the
parameters that `BuildTieredTokenParams` derives from the usage.  Ratios and
prices are exact rationals, up to the point where a quota is rounded.
-/

namespace NewApi.Pricing

/-- Subsets of the cached tokens; `none` is an unreported modality. -/
structure CachedTokenDetails where
  textTokens : Option Int
  imageTokens : Option Int
  audioTokens : Option Int
  deriving DecidableEq, Repr

structure InputTokenDetails where
  cachedTokens : Int := 0
  cachedTokensDetails : Option CachedTokenDetails := none
  cachedCreationTokens : Int := 0
  cacheWriteTokens : Int := 0
  audioTokens : Int := 0
  imageTokens : Int := 0
  deriving DecidableEq, Repr

/-- The cache-write count, whichever field it was reported in. -/
def InputTokenDetails.cacheCreationTokensTotal (details : InputTokenDetails) : Int :=
  let total := max details.cacheWriteTokens details.cachedCreationTokens
  if total < 0 then 0 else total

structure OutputTokenDetails where
  audioTokens : Int := 0
  imageTokens : Int := 0
  deriving DecidableEq, Repr

/-- The usage of a request in the shared accounting shape.  `cost` is the
price an upstream reports, when it is a number. -/
structure Usage where
  promptTokens : Int
  completionTokens : Int
  usageSemantic : String := ""
  usageSource : String := ""
  promptTokensDetails : InputTokenDetails := {}
  completionTokenDetails : OutputTokenDetails := {}
  claudeCacheCreation5mTokens : Int := 0
  claudeCacheCreation1hTokens : Int := 0
  cost : Option Rat := none
  deriving DecidableEq, Repr

/-- The `cache_creation` object of a Claude usage. -/
structure ClaudeCacheCreationUsage where
  ephemeral5mInputTokens : Int
  ephemeral1hInputTokens : Int
  deriving DecidableEq, Repr

structure ClaudeUsage where
  inputTokens : Int
  cacheCreationInputTokens : Int
  cacheReadInputTokens : Int
  outputTokens : Int
  cacheCreation : Option ClaudeCacheCreationUsage
  claudeCacheCreation5mTokens : Int
  claudeCacheCreation1hTokens : Int
  deriving DecidableEq, Repr

namespace ClaudeUsage

/-- The split of the cache creation.  The flat fields count only when the
object is missing. -/
def cacheCreationSplit (usage : ClaudeUsage) : Int × Int :=
  match usage.cacheCreation with
  | some split => (split.ephemeral5mInputTokens, split.ephemeral1hInputTokens)
  | none => (usage.claudeCacheCreation5mTokens, usage.claudeCacheCreation1hTokens)

def canonicalClaudeUsage (usage : ClaudeUsage) : Usage where
  promptTokens := usage.inputTokens
  completionTokens := usage.outputTokens
  usageSemantic := "anthropic"
  usageSource := "claude_messages"
  promptTokensDetails :=
    { cachedTokens := usage.cacheReadInputTokens
      cachedCreationTokens := usage.cacheCreationInputTokens }
  claudeCacheCreation5mTokens := usage.cacheCreationSplit.1
  claudeCacheCreation1hTokens := usage.cacheCreationSplit.2

end ClaudeUsage

/-- The variables of a price expression that stand for token counts. -/
inductive PriceVar where
  | p
  | c
  | len
  | cr
  | cc
  | cc1h
  | img
  | imgCR
  | imgO
  | ai
  | ao
  deriving DecidableEq, Repr

structure TokenParams where
  p : Rat
  c : Rat
  len : Rat
  cr : Rat
  cc : Rat
  cc1h : Rat
  img : Rat
  imgCR : Rat
  imgO : Rat
  ai : Rat
  ao : Rat
  deriving DecidableEq, Repr

def TokenParams.get (params : TokenParams) : PriceVar → Rat
  | .p => params.p
  | .c => params.c
  | .len => params.len
  | .cr => params.cr
  | .cc => params.cc
  | .cc1h => params.cc1h
  | .img => params.img
  | .imgCR => params.imgCR
  | .imgO => params.imgO
  | .ai => params.ai
  | .ao => params.ao

inductive PriceCondition where
  | gt (variable_ : PriceVar) (bound : Rat)
  | or (left right : PriceCondition)
  deriving DecidableEq, Repr

inductive PriceExpr where
  | num (value : Rat)
  | var (name : PriceVar)
  | add (left right : PriceExpr)
  | sub (left right : PriceExpr)
  | mul (left right : PriceExpr)
  | max (left right : PriceExpr)
  | ite (condition : PriceCondition) (yes no : PriceExpr)
  | tier (name : String) (price : PriceExpr)
  deriving DecidableEq, Repr

def PriceCondition.holds (params : TokenParams) : PriceCondition → Bool
  | .gt name bound => decide (bound < params.get name)
  | .or left right => left.holds params || right.holds params

def PriceCondition.uses (name : PriceVar) : PriceCondition → Bool
  | .gt other _ => decide (other = name)
  | .or left right => left.uses name || right.uses name

namespace PriceExpr

def eval (params : TokenParams) : PriceExpr → Rat
  | num value => value
  | var name => params.get name
  | add left right => left.eval params + right.eval params
  | sub left right => left.eval params - right.eval params
  | mul left right => left.eval params * right.eval params
  | max left right => Max.max (left.eval params) (right.eval params)
  | ite condition yes no =>
    if condition.holds params then yes.eval params else no.eval params
  | tier _ price => price.eval params

/-- `UsedVars`: the identifiers anywhere in the expression. -/
def usedVars (expression : PriceExpr) (name : PriceVar) : Bool :=
  match expression with
  | num _ => false
  | var other => decide (other = name)
  | add left right => left.usedVars name || right.usedVars name
  | sub left right => left.usedVars name || right.usedVars name
  | mul left right => left.usedVars name || right.usedVars name
  | max left right => left.usedVars name || right.usedVars name
  | ite condition yes no => condition.uses name || yes.usedVars name || no.usedVars name
  | tier _ price => price.usedVars name

end PriceExpr

/-- The cached image tokens of a usage, when their breakdown is
consistent. -/
def cachedImageTokens (usage : Usage) : Option Int := do
  let details ← usage.promptTokensDetails.cachedTokensDetails
  let cachedImage ← details.imageTokens
  let cached := usage.promptTokensDetails.cachedTokens
  let image := usage.promptTokensDetails.imageTokens
  if 0 ≤ cachedImage ∧ cachedImage ≤ cached ∧ cachedImage ≤ image ∧
      cached ≤ usage.promptTokens ∧
      image ≤ usage.promptTokens - (cached - cachedImage) then
    let remaining ← fits (cached - cachedImage) details.textTokens
    let _ ← fits remaining details.audioTokens
    some cachedImage
  else none
where
  fits (remaining : Int) : Option Int → Option Int
    | none => some remaining
    | some count =>
      if count < 0 ∨ remaining < count then none
      else some (remaining - count)

/-- Derive the parameters of an expression from a usage.  A category is taken
out of the input only when the expression prices it apart. -/
def buildTieredTokenParams (usage : Usage) (isClaudeUsageSemantic : Bool)
    (usedVars : PriceVar → Bool) : TokenParams :=
  let details := usage.promptTokensDetails
  let anthropic := decide (usage.usageSemantic = "anthropic")
  let cc5m : Rat :=
    if anthropic then usage.claudeCacheCreation5mTokens
    else details.cacheCreationTokensTotal
  let cc1h : Rat := if anthropic then usage.claudeCacheCreation1hTokens else 0
  let imgCR : Rat :=
    if usedVars .imgCR && !isClaudeUsageSemantic then ((cachedImageTokens usage).getD 0 : Int)
    else 0
  let cr : Rat := details.cachedTokens - imgCR
  let img : Rat := details.imageTokens - imgCR
  let ai : Rat := details.audioTokens
  let imgO : Rat := usage.completionTokenDetails.imageTokens
  let ao : Rat := usage.completionTokenDetails.audioTokens
  let prompt : Rat := usage.promptTokens
  let completion : Rat := usage.completionTokens
  let used (name : PriceVar) (count : Rat) : Rat := if usedVars name then count else 0
  let p : Rat :=
    if isClaudeUsageSemantic then
      if usedVars .cr then prompt else prompt + cr
    else
      prompt - used .cr cr - used .cc cc5m - used .cc1h cc1h -
        used .img img - used .imgCR imgCR - used .ai ai
  let c : Rat :=
    if isClaudeUsageSemantic then completion
    else completion - used .imgO imgO - used .ao ao
  { p := if p < 0 then 0 else p
    c := if c < 0 then 0 else c
    len := if isClaudeUsageSemantic then prompt + cr + cc5m + cc1h else prompt
    cr := cr
    cc := cc5m
    cc1h := cc1h
    img := img
    imgCR := imgCR
    imgO := imgO
    ai := ai
    ao := ao }

structure PriceData where
  usePrice : Bool
  modelPrice : Rat
  modelRatio : Rat
  completionRatio : Rat
  cacheRatio : Rat
  imageRatio : Rat
  cacheCreationRatio : Rat
  cacheCreation5mRatio : Rat
  cacheCreation1hRatio : Rat
  groupRatio : Rat
  otherRatios : List Rat
  deriving DecidableEq, Repr

/-- The part of a relay request that its price depends on.
`customModelRatio` says that the model ratio is not the built-in one,
`geminiInputAudioPrice` is the price of a million audio tokens, zero when the
model has none, and `toolCallSurchargeQuota` is the surcharge for the tools
that were called. -/
structure RelayInfo where
  priceData : PriceData
  claudeRelayFormat : Bool
  openRouterChannel : Bool
  customModelRatio : Bool
  geminiInputAudioPrice : Rat
  toolCallSurchargeQuota : Rat
  deriving DecidableEq, Repr

def PriceData.applyOtherRatios (priceData : PriceData) (value : Rat) : Rat :=
  priceData.otherRatios.foldl
    (fun value ratio => if 0 < ratio ∧ ratio ≠ 1 then value * ratio else value)
    value

def usageSemanticFromUsage (relayInfo : RelayInfo) (usage : Usage) : String :=
  if usage.usageSemantic ≠ "" then usage.usageSemantic
  else if relayInfo.claudeRelayFormat then "anthropic"
  else "openai"

def isLegacyClaudeDerivedOpenAIUsage (relayInfo : RelayInfo) (usage : Usage) : Bool :=
  if relayInfo.claudeRelayFormat then false
  else if usage.usageSource ≠ "" ∨ usage.usageSemantic ≠ "" then false
  else
    decide (0 < usage.claudeCacheCreation5mTokens ∨ 0 < usage.claudeCacheCreation1hTokens)

def maxQuota : Int := 2147483647

def minQuota : Int := -2147483648

def roundHalfAway (value : Rat) : Int := if value < 0 then -⌊-value + 1 / 2⌋ else ⌊value + 1 / 2⌋

/-- The cache-write count that explains the cost an OpenRouter upstream
reports; negative when none does. -/
def calcOpenRouterCacheCreateTokens
    (quotaPerUnit : Rat) (usage : Usage) (priceData : PriceData) : Int :=
  if priceData.cacheCreationRatio = 1 then 0
  else
    let quotaPrice := priceData.modelRatio / quotaPerUnit
    let promptCacheCreatePrice := quotaPrice * priceData.cacheCreationRatio
    let promptCacheReadPrice := quotaPrice * priceData.cacheRatio
    let completionPrice := quotaPrice * priceData.completionRatio
    let value :=
      (usage.cost.getD 0 - usage.promptTokens * quotaPrice +
          usage.promptTokensDetails.cachedTokens * (quotaPrice - promptCacheReadPrice) -
          usage.completionTokens * completionPrice) /
        (promptCacheCreatePrice - quotaPrice)
    if promptCacheCreatePrice - quotaPrice = 0 then -1
    else if maxQuota < roundHalfAway value ∨ roundHalfAway value < minQuota
    then -1
    else roundHalfAway value

structure TextQuotaSummary where
  promptTokens : Int
  completionTokens : Int
  cacheTokens : Int
  cacheCreationTokens : Int
  cacheCreationTokens5m : Int
  cacheCreationTokens1h : Int
  imageTokens : Int
  audioTokens : Int
  isClaudeUsageSemantic : Bool
  deriving DecidableEq, Repr

/-- The cache creation of a Claude usage on an OpenRouter channel, which may
leave it to be found from the cost.  (The source compares the reported cost
with an integer zero, which a decoded cost never equals.) -/
def openRouterCacheCreation (quotaPerUnit : Rat) (relayInfo : RelayInfo) (usage : Usage) : Int :=
  let creation := usage.promptTokensDetails.cacheCreationTokensTotal
  let priceData := relayInfo.priceData
  let maybeCreation := calcOpenRouterCacheCreateTokens quotaPerUnit usage priceData
  if creation = 0 ∧ priceData.cacheCreationRatio ≠ 1 ∧
      !(priceData.usePrice || relayInfo.customModelRatio) ∧
      0 ≤ maybeCreation ∧
      maybeCreation ≤ usage.promptTokens - usage.promptTokensDetails.cachedTokens then
    maybeCreation
  else creation

/-- The counts of a usage.  An OpenRouter channel reports a Claude usage with
the cache in the prompt. -/
def textQuotaSummary (quotaPerUnit : Rat) (relayInfo : RelayInfo) (usage : Usage) :
    TextQuotaSummary :=
  let claude := decide (usageSemanticFromUsage relayInfo usage = "anthropic")
  let cache := usage.promptTokensDetails.cachedTokens
  let summary : TextQuotaSummary :=
    { promptTokens := usage.promptTokens
      completionTokens := usage.completionTokens
      cacheTokens := cache
      cacheCreationTokens := usage.promptTokensDetails.cacheCreationTokensTotal
      cacheCreationTokens5m := usage.claudeCacheCreation5mTokens
      cacheCreationTokens1h := usage.claudeCacheCreation1hTokens
      imageTokens := usage.promptTokensDetails.imageTokens
      audioTokens := usage.promptTokensDetails.audioTokens
      isClaudeUsageSemantic := claude }
  if relayInfo.openRouterChannel && claude then
    let creation := openRouterCacheCreation quotaPerUnit relayInfo usage
    { summary with
      promptTokens := usage.promptTokens - cache - creation
      cacheCreationTokens := creation }
  else summary

/-- The quota of `calculateTextQuotaSummary` before it is rounded, and before
the minimum of one quota is applied. -/
def textQuotaDecimal (quotaPerUnit : Rat) (relayInfo : RelayInfo) (usage : Usage) : Rat :=
  let summary := textQuotaSummary quotaPerUnit relayInfo usage
  let priceData := relayInfo.priceData
  let apart := !summary.isClaudeUsageSemantic && !isLegacyClaudeDerivedOpenAIUsage relayInfo usage
  if priceData.usePrice then
    priceData.applyOtherRatios
      (priceData.modelPrice * quotaPerUnit * priceData.groupRatio +
        relayInfo.toolCallSurchargeQuota)
  else
    let base : Rat := summary.promptTokens
    let base := if apart then base - summary.cacheTokens else base
    let base := if apart then base - summary.cacheCreationTokens else base
    let base := base - summary.imageTokens
    let pricedAudio := decide (summary.audioTokens ≠ 0 ∧ 0 < relayInfo.geminiInputAudioPrice)
    let base := if pricedAudio then base - summary.audioTokens else base
    let audioInputQuota : Rat :=
      if pricedAudio then
        relayInfo.geminiInputAudioPrice / 1000000 * summary.audioTokens *
          priceData.groupRatio * quotaPerUnit
      else 0
    let base := if base < 0 then 0 else base
    let remaining : Int :=
      max
        (summary.cacheCreationTokens - summary.cacheCreationTokens5m -
          summary.cacheCreationTokens1h)
        0
    let cacheCreation : Rat :=
      if apart then summary.cacheCreationTokens * priceData.cacheCreationRatio
      else if summary.cacheCreationTokens ≠ 0 ∨
          0 < summary.cacheCreationTokens5m ∨
          0 < summary.cacheCreationTokens1h then
        remaining * priceData.cacheCreationRatio +
          summary.cacheCreationTokens5m * priceData.cacheCreation5mRatio +
          summary.cacheCreationTokens1h * priceData.cacheCreation1hRatio
      else 0
    let promptQuota :=
      base + summary.cacheTokens * priceData.cacheRatio +
        summary.imageTokens * priceData.imageRatio + cacheCreation
    let completionQuota := summary.completionTokens * priceData.completionRatio
    priceData.applyOtherRatios
      ((promptQuota + completionQuota) *
          (priceData.modelRatio * priceData.groupRatio) +
        relayInfo.toolCallSurchargeQuota + audioInputQuota)

def tieredQuotaDecimal (quotaPerUnit groupRatio cost : Rat) : Rat :=
  cost / 1000000 * quotaPerUnit * groupRatio

end NewApi.Pricing
