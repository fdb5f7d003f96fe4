import Mathlib.Tactic.FieldSimp
import Mathlib.Tactic.Linarith
import Mathlib.Tactic.Ring
import NewApi.Pricing.PriceConversion

/-!
# When a converted price keeps the bill

Ratio billing takes every priced category out of the input and stops the rest
at zero.  The converted expression takes out only the categories it names, so
the two agree as long as the others do not disappear under that stop.
-/

namespace NewApi.Pricing

namespace PriceExpr

def lanesCost (params : TokenParams) (lanes : List PriceLane) : Rat :=
  (lanes.map (fun lane => params.get lane.variable_ * lane.price)).sum

@[simp]
theorem lanesCost_nil (params : TokenParams) : lanesCost params [] = 0 := rfl

@[simp]
theorem lanesCost_cons (params : TokenParams) (lane : PriceLane) (lanes : List PriceLane) :
    lanesCost params (lane :: lanes) =
      params.get lane.variable_ * lane.price + lanesCost params lanes :=
  rfl

@[simp]
theorem lanesCost_append (params : TokenParams) (left right : List PriceLane) :
    lanesCost params (left ++ right) = lanesCost params left + lanesCost params right := by
  simp [lanesCost]

theorem eval_addLanes (params : TokenParams) (start : PriceExpr) (lanes : List PriceLane) :
    (addLanes start lanes).eval params = start.eval params + lanesCost params lanes := by
  unfold addLanes
  induction lanes generalizing start with
  | nil => simp
  | cons lane rest ih =>
    rw [List.foldl_cons, ih, lanesCost_cons]
    simp only [eval]
    ring

theorem usedVars_addLanes (name : PriceVar) (start : PriceExpr) (lanes : List PriceLane) :
    (addLanes start lanes).usedVars name =
      (start.usedVars name || lanes.any (fun lane => decide (lane.variable_ = name))) := by
  unfold addLanes
  induction lanes generalizing start with
  | nil => simp
  | cons lane rest ih =>
    rw [List.foldl_cons, ih, List.any_cons]
    simp [usedVars, Bool.or_assoc]

end PriceExpr

open PriceExpr

/-- The input units that the text lanes charge, for the input price of one. -/
def textUnits (params : TokenParams) (mode : CacheWriteMode) (effective : TokenPricing)
    (merge : Bool) : Rat :=
  params.p + params.c * effective.completionRatio +
    (if merge ∧ effective.cacheRatio = 1 then 0
      else params.cr * effective.cacheRatio) +
    (if mode = .none then 0 else params.cc * effective.createCacheRatio) +
    (if mode = .claudeTTL then params.cc1h * (effective.createCacheRatio * (8 / 5)) else 0) +
    (if effective.imageRatio = 1 then 0
      else params.img * effective.imageRatio)

theorem lanesCost_textLanes (params : TokenParams) (base : Rat) (mode : CacheWriteMode)
    (effective : TokenPricing) (merge : Bool) :
    params.p * base + lanesCost params (textLanes base mode effective merge false) =
      base * textUnits params mode effective merge := by
  have ttlFactor : (6 / 3.75 : Rat) = 8 / 5 := by norm_num
  unfold textLanes textUnits
  rw [ttlFactor]
  simp only [lanesCost_append, Bool.false_eq_true, if_false]
  split_ifs <;> simp [TokenParams.get] <;> ring

theorem lanesCost_audioLanes (params : TokenParams) (details : LegacyBillingDetails)
    (noInput : params.ai = 0) (noOutput : params.ao = 0) :
    lanesCost params (audioLanes details) = 0 := by
  unfold audioLanes
  cases details.audioInputPrice <;> cases details.audioOutputPrice <;>
    simp [TokenParams.get, noInput, noOutput]

variable {base : Rat}

theorem eval_baseTier {params : TokenParams} {mode : CacheWriteMode}
    {effective : TokenPricing} {details : LegacyBillingDetails}
    (audioFree : lanesCost params (audioLanes details) = 0)
    (apart : (details.audioOutputPrice.isSome && !details.audioTextBranches) = false) :
    (baseTier base mode effective details).eval params =
      base * textUnits params mode effective (mergeCacheRead base mode effective details) := by
  have lanesFree :
      lanesCost params (if details.audioTextBranches then [] else audioLanes details) = 0 := by
    split
    · rfl
    · exact audioFree
  rw [← lanesCost_textLanes]
  simp only [baseTier, apart, eval, eval_addLanes, lanesCost_append, lanesFree, TokenParams.get]
  ring

/-! ## What a conversion returns -/

/-- A conversion, taken apart.  The leaf for texts is the whole expression
unless an audio price stands beside differing text prices. -/
structure Converted (input : ConversionInput) (preview : ModelPricingConversion)
    (ratio : Rat) : Prop where
  ratioConfigured : input.effective.modelRatio = some ratio
  quotaUnit : 0 < input.quotaPerUnit
  mode : preview.cacheWriteMode = resolveCacheWriteMode input.name input.createCacheConfigured
  outputNeedsInput :
    preview.billingDetails.audioOutputPrice.isSome → preview.billingDetails.audioInputPrice.isSome
  writesNeedBranches :
    preview.billingDetails.audioOutputPrice.isSome →
      preview.cacheWriteMode ≠ .none →
      preview.billingDetails.audioTextBranches = true
  expression :
    let text :=
      baseTier (ratio * 1000000 / input.quotaPerUnit) preview.cacheWriteMode
        input.effective preview.billingDetails
    (preview.expression = text ∧
        preview.billingDetails.audioTextBranches = false) ∨
      ∃ audioInput audioOutput : Rat,
        preview.expression =
          .ite (.or (.gt .ai 0) (.gt .ao 0))
            (audioTier (ratio * 1000000 / input.quotaPerUnit)
              input.effective.completionRatio audioInput audioOutput)
            text

theorem resolveLegacyBillingDetails_outputNeedsInput (input : ConversionInput) :
    (resolveLegacyBillingDetails input).audioOutputPrice.isSome →
      (resolveLegacyBillingDetails input).audioInputPrice.isSome := by
  unfold resolveLegacyBillingDetails
  dsimp only
  split
  · simp
  · split
    · simp
    · split_ifs <;> simp

theorem resolveLegacyBillingDetails_branchesNeedOutput (input : ConversionInput) :
    (resolveLegacyBillingDetails input).audioTextBranches = true →
      (resolveLegacyBillingDetails input).audioOutputPrice.isSome := by
  unfold resolveLegacyBillingDetails
  dsimp only
  split
  · simp
  · split
    · simp
    · split_ifs <;> simp

variable {ratio : Rat}

theorem legacyInputPricePerMillion_ok {quotaPerUnit : Rat}
    (priced : legacyInputPricePerMillion quotaPerUnit ratio = .ok base) :
    0 < quotaPerUnit ∧ base = ratio * 1000000 / quotaPerUnit := by
  unfold legacyInputPricePerMillion at priced
  split_ifs at priced with unit sign
  cases priced
  exact ⟨lt_of_not_ge unit, rfl⟩

variable {input : ConversionInput} {preview : ModelPricingConversion}

theorem previewModelPricingConversion_converted
    (converted : previewModelPricingConversion input = .ok (.inr preview)) :
    ∃ ratio, Converted input preview ratio := by
  have outputNeedsInput := resolveLegacyBillingDetails_outputNeedsInput input
  have branchesNeedOutput := resolveLegacyBillingDetails_branchesNeedOutput input
  unfold previewModelPricingConversion at converted
  generalize resolveLegacyBillingDetails input = details at *
  dsimp only at converted
  generalize modeEq : resolveCacheWriteMode input.name input.createCacheConfigured = mode
    at converted
  split at converted
  · cases converted
  cases ratioConfigured : input.effective.modelRatio with
  | none =>
    rw [ratioConfigured] at converted
    cases converted
  | some ratio =>
    rw [ratioConfigured] at converted
    cases priced : legacyInputPricePerMillion input.quotaPerUnit ratio with
    | error message =>
      simp only [priced] at converted
      cases converted
    | ok base =>
      obtain ⟨quotaUnit, baseEq⟩ := legacyInputPricePerMillion_ok priced
      simp only [priced] at converted
      subst baseEq
      cases converted
      refine ⟨ratio, ratioConfigured, quotaUnit, modeEq.symm, outputNeedsInput, ?_, ?_⟩
      · intro output writes
        simp only [Bool.or_eq_true, Bool.and_eq_true, decide_eq_true_eq]
        exact Or.inr ⟨output, writes⟩
      · dsimp only
        split
        · split_ifs with branches
          · exact Or.inr ⟨_, _, rfl⟩
          · exact Or.inl ⟨rfl, Bool.eq_false_iff.mpr branches⟩
        · rename_i noPrices
          refine Or.inl ⟨rfl, ?_⟩
          by_contra branches
          have output : details.audioOutputPrice.isSome = true := by
            rw [Bool.not_eq_false, Bool.or_eq_true, Bool.and_eq_true] at branches
            rcases branches with branches | ⟨output, _⟩
            · exact branchesNeedOutput branches
            · exact output
          obtain ⟨audioOutput, outputPrice⟩ := Option.isSome_iff_exists.mp output
          obtain ⟨audioInput, inputPrice⟩ := Option.isSome_iff_exists.mp (outputNeedsInput output)
          exact noPrices audioInput audioOutput inputPrice outputPrice

def textLaneUses (mode : CacheWriteMode) (effective : TokenPricing) (merge : Bool) :
    PriceVar → Bool
  | .c => true
  | .cr => !(merge && decide (effective.cacheRatio = 1))
  | .cc => decide (mode ≠ .none)
  | .cc1h => decide (mode = .claudeTTL)
  | .img => decide (effective.imageRatio ≠ 1)
  | _ => false

theorem any_unless {unused : Prop} [Decidable unused] (lane : PriceLane)
    (selects : PriceLane → Bool) :
    (if unused then [] else [lane]).any selects = (!decide unused && selects lane) := by
  split_ifs with condition <;> simp [condition]

theorem any_textLanes (base : Rat) (mode : CacheWriteMode) (effective : TokenPricing)
    (merge : Bool) (name : PriceVar) :
    (textLanes base mode effective merge false).any (fun lane => decide (lane.variable_ = name)) =
      textLaneUses mode effective merge name := by
  simp only [textLanes, List.any_append, Bool.false_eq_true, if_false, any_unless,
    ← ite_not (mode = .claudeTTL)]
  cases name <;> simp [textLaneUses]

theorem usedVars_baseTier {mode : CacheWriteMode} {effective : TokenPricing}
    {details : LegacyBillingDetails} {name : PriceVar}
    (apart : (details.audioOutputPrice.isSome && !details.audioTextBranches) = false) :
    (baseTier base mode effective details).usedVars name =
      (decide (PriceVar.p = name) ||
        (textLaneUses mode effective (mergeCacheRead base mode effective details) name ||
          (if details.audioTextBranches then [] else audioLanes details).any
            (fun lane => decide (lane.variable_ = name)))) := by
  simp only [baseTier, apart, usedVars, usedVars_addLanes, List.any_append,
    any_textLanes, Bool.or_false]

theorem Converted.noAudioPrice (converted : Converted input preview ratio)
    (noAudioTerms : preview.expression.usedVars .ai = false) :
    preview.billingDetails.audioInputPrice = none ∧ preview.billingDetails.audioOutputPrice = none ∧
      preview.billingDetails.audioTextBranches = false ∧
      preview.expression =
        baseTier (ratio * 1000000 / input.quotaPerUnit)
          preview.cacheWriteMode input.effective preview.billingDetails := by
  rcases converted.expression with
    ⟨text, noBranches⟩ | ⟨audioInput, audioOutput, branches⟩
  · have inputMissing : preview.billingDetails.audioInputPrice = none := by
      rw [text] at noAudioTerms
      cases inputPrice : preview.billingDetails.audioInputPrice with
      | none => rfl
      | some price =>
        simp [baseTier, usedVars, usedVars_addLanes, noBranches, audioLanes,
          inputPrice] at noAudioTerms
    have outputMissing : preview.billingDetails.audioOutputPrice = none := by
      have outputNeedsInput := converted.outputNeedsInput
      rw [inputMissing] at outputNeedsInput
      simpa using outputNeedsInput
    exact ⟨inputMissing, outputMissing, noBranches, text⟩
  · rw [branches] at noAudioTerms
    simp [usedVars, PriceCondition.uses] at noAudioTerms

structure RelaysPricing (relayInfo : RelayInfo) (input : ConversionInput) : Prop where
  perToken : relayInfo.priceData.usePrice = false
  modelRatio : input.effective.modelRatio = some relayInfo.priceData.modelRatio
  completionRatio : relayInfo.priceData.completionRatio = input.effective.completionRatio
  cacheRatio : relayInfo.priceData.cacheRatio = input.effective.cacheRatio
  imageRatio : relayInfo.priceData.imageRatio = input.effective.imageRatio
  cacheCreationRatio : relayInfo.priceData.cacheCreationRatio = input.effective.createCacheRatio
  noOtherRatios : relayInfo.priceData.otherRatios = []
  noToolCalls : relayInfo.toolCallSurchargeQuota = 0

/-- What the request costs once its price is the converted expression. -/
def convertedQuota (input : ConversionInput) (preview : ModelPricingConversion)
    (relayInfo : RelayInfo) (usage : Usage) (isClaudeUsageSemantic : Bool) :
    Rat :=
  tieredQuotaDecimal input.quotaPerUnit relayInfo.priceData.groupRatio
    (preview.expression.eval
      (buildTieredTokenParams usage isClaudeUsageSemantic
        preview.expression.usedVars))

/-- Both bills are the same multiple of their units. -/
theorem bill_eq_iff {quotaPerUnit modelRatio groupRatio units convertedUnits : Rat}
    (quotaUnit : 0 < quotaPerUnit) (positive : 0 < units * (modelRatio * groupRatio)) :
    units * (modelRatio * groupRatio) =
        tieredQuotaDecimal quotaPerUnit groupRatio
          (modelRatio * 1000000 / quotaPerUnit * convertedUnits) ↔
      units = convertedUnits := by
  have unitNonzero : quotaPerUnit ≠ 0 := ne_of_gt quotaUnit
  have converted :
      tieredQuotaDecimal quotaPerUnit groupRatio
          (modelRatio * 1000000 / quotaPerUnit * convertedUnits) =
        convertedUnits * (modelRatio * groupRatio) := by
    unfold tieredQuotaDecimal
    field_simp
  have rateNonzero : modelRatio * groupRatio ≠ 0 := by
    intro zero
    rw [zero, mul_zero] at positive
    exact lt_irrefl 0 positive
  rw [converted]
  exact mul_left_inj' rateNonzero

/-! ## OpenAI usages -/

structure OpenAISemantics (relayInfo : RelayInfo) (usage : Usage) : Prop where
  notAnthropic : usageSemanticFromUsage relayInfo usage ≠ "anthropic"
  notClaudeDerived : isLegacyClaudeDerivedOpenAIUsage relayInfo usage = false

variable {relayInfo : RelayInfo} {usage : Usage}

theorem OpenAISemantics.usageSemantic (openAI : OpenAISemantics relayInfo usage) :
    usage.usageSemantic ≠ "anthropic" := by
  intro anthropic
  apply openAI.notAnthropic
  simp [usageSemanticFromUsage, anthropic]

/-- A usage without audio whose counts are not negative. -/
structure CountsNonneg (usage : Usage) : Prop where
  prompt : 0 ≤ usage.promptTokens
  completion : 0 ≤ usage.completionTokens
  cached : 0 ≤ usage.promptTokensDetails.cachedTokens
  image : 0 ≤ usage.promptTokensDetails.imageTokens
  noAudio : usage.promptTokensDetails.audioTokens = 0

/-- The input units of ratio billing for an OpenAI usage. -/
def openAIUnits (effective : TokenPricing) (usage : Usage) : Rat :=
  let details := usage.promptTokensDetails
  let creation : Rat := details.cacheCreationTokensTotal
  max
      ((usage.promptTokens : Rat) - details.cachedTokens - creation -
        details.imageTokens)
      0 +
    details.cachedTokens * effective.cacheRatio +
    details.imageTokens * effective.imageRatio +
    creation * effective.createCacheRatio +
    usage.completionTokens * effective.completionRatio

theorem max_zero_eq_ite (value : Rat) : max value 0 = if value < 0 then 0 else value := by
  split_ifs with negative
  · exact max_eq_right negative.le
  · exact max_eq_left (not_lt.mp negative)

theorem textQuotaDecimal_openAI (relays : RelaysPricing relayInfo input)
    (openAI : OpenAISemantics relayInfo usage) (counts : CountsNonneg usage) :
    textQuotaDecimal input.quotaPerUnit relayInfo usage =
      openAIUnits input.effective usage *
        (relayInfo.priceData.modelRatio * relayInfo.priceData.groupRatio) := by
  have summaryEq : textQuotaSummary input.quotaPerUnit relayInfo usage =
        { promptTokens := usage.promptTokens
          completionTokens := usage.completionTokens
          cacheTokens := usage.promptTokensDetails.cachedTokens
          cacheCreationTokens := usage.promptTokensDetails.cacheCreationTokensTotal
          cacheCreationTokens5m := usage.claudeCacheCreation5mTokens
          cacheCreationTokens1h := usage.claudeCacheCreation1hTokens
          imageTokens := usage.promptTokensDetails.imageTokens
          audioTokens := usage.promptTokensDetails.audioTokens
          isClaudeUsageSemantic := false } := by
    simp [textQuotaSummary, openAI.notAnthropic]
  unfold textQuotaDecimal openAIUnits
  simp only [summaryEq, relays.perToken, openAI.notClaudeDerived, counts.noAudio,
    relays.noToolCalls, relays.noOtherRatios, PriceData.applyOtherRatios, relays.completionRatio,
    relays.cacheRatio, relays.imageRatio, relays.cacheCreationRatio, max_zero_eq_ite]
  simp

/-- The tokens of the categories that the conversion leaves in `p`: images at
the input price, and cached tokens at the input price when nothing else is
priced apart. -/
def foldedTokens (input : ConversionInput) (usage : Usage) : Int :=
  let mode := resolveCacheWriteMode input.name input.createCacheConfigured
  let effective := input.effective
  (if effective.imageRatio = 1 then usage.promptTokensDetails.imageTokens
    else 0) +
  (if mode = .none ∧ effective.imageRatio = 1 ∧ effective.cacheRatio = 1 then
    usage.promptTokensDetails.cachedTokens
    else 0)

theorem foldedTokens_nonneg (input : ConversionInput) (counts : CountsNonneg usage) :
    0 ≤ foldedTokens input usage := by
  have cached := counts.cached
  have image := counts.image
  unfold foldedTokens
  dsimp only
  split_ifs <;> omega

/-- The variables of an OpenAI usage.  Categories that an expression does not
name stay in the input. -/
theorem buildTieredTokenParams_openAI {used : PriceVar → Bool}
    (notAnthropic : usage.usageSemantic ≠ "anthropic") (counts : CountsNonneg usage)
    (textOnly : used .imgCR = false ∧ used .imgO = false ∧ used .ai = false ∧ used .ao = false) :
    let params := buildTieredTokenParams usage false used
    let taken (name : PriceVar) (count : Int) : Rat := if used name then count else 0
    params.p =
        max
          ((usage.promptTokens : Rat) - taken .cr usage.promptTokensDetails.cachedTokens -
            taken .cc usage.promptTokensDetails.cacheCreationTokensTotal -
            taken .img usage.promptTokensDetails.imageTokens)
          0 ∧
      params.c = usage.completionTokens ∧
      params.cr = usage.promptTokensDetails.cachedTokens ∧
      params.cc = usage.promptTokensDetails.cacheCreationTokensTotal ∧
      params.cc1h = 0 ∧
      params.img = usage.promptTokensDetails.imageTokens := by
  obtain ⟨noImageCache, noImageOutput, noAudioInput, noAudioOutput⟩ := textOnly
  have completionNonneg : ¬ (usage.completionTokens : Rat) < 0 := by
    exact_mod_cast not_lt.mpr counts.completion
  dsimp only
  refine ⟨?_, ?_, ?_, ?_, ?_, ?_⟩
  · rw [max_zero_eq_ite]
    simp [buildTieredTokenParams, notAnthropic, noImageCache, noAudioInput]
  · simp [buildTieredTokenParams, noImageOutput, noAudioOutput]
    exact_mod_cast fun negative => absurd negative (not_lt.mpr counts.completion)
  · simp [buildTieredTokenParams, noImageCache]
  · simp [buildTieredTokenParams, notAnthropic]
  · simp [buildTieredTokenParams, notAnthropic]
  · simp [buildTieredTokenParams, noImageCache]

def convertedUses (mode : CacheWriteMode) (effective : TokenPricing) (name : PriceVar) :
    Bool :=
  decide (PriceVar.p = name) ||
    textLaneUses mode effective
      (decide (mode = .none ∧ effective.imageRatio = 1)) name

theorem textUnits_openAI (converted : Converted input preview ratio)
    (noAudioTerms : preview.expression.usedVars .ai = false)
    (notAnthropic : usage.usageSemantic ≠ "anthropic") (counts : CountsNonneg usage)
    (noWrites :
      preview.cacheWriteMode = .none → usage.promptTokensDetails.cacheCreationTokensTotal = 0)
    (ratioNonzero : ratio ≠ 0) :
    let rest : Rat :=
      (usage.promptTokens : Rat) - usage.promptTokensDetails.cachedTokens -
        usage.promptTokensDetails.cacheCreationTokensTotal -
        usage.promptTokensDetails.imageTokens
    preview.expression.eval (buildTieredTokenParams usage false preview.expression.usedVars) =
      ratio * 1000000 / input.quotaPerUnit *
        (openAIUnits input.effective usage - max rest 0 +
          (max (rest + foldedTokens input usage) 0 - foldedTokens input usage)) := by
  intro rest
  obtain ⟨inputMissing, outputMissing, noBranches, text⟩ := converted.noAudioPrice noAudioTerms
  have unitNonzero : input.quotaPerUnit ≠ 0 := ne_of_gt converted.quotaUnit
  have baseNonzero : ratio * 1000000 / input.quotaPerUnit ≠ 0 := by simp [ratioNonzero, unitNonzero]
  have apart :
      (preview.billingDetails.audioOutputPrice.isSome &&
        !preview.billingDetails.audioTextBranches) = false := by
    simp [outputMissing]
  have mergeEq :
      mergeCacheRead (ratio * 1000000 / input.quotaPerUnit)
          preview.cacheWriteMode input.effective preview.billingDetails =
        decide (preview.cacheWriteMode = .none ∧ input.effective.imageRatio = 1)
      := by
    simp [mergeCacheRead, baseNonzero, inputMissing]
  have uses :
      preview.expression.usedVars = convertedUses preview.cacheWriteMode input.effective := by
    funext name
    rw [text, usedVars_baseTier apart, mergeEq]
    simp [audioLanes, inputMissing, outputMissing, convertedUses]
  have audioFree (params : TokenParams) :
      lanesCost params (audioLanes preview.billingDetails) = 0 := by
    simp [audioLanes, inputMissing, outputMissing]
  obtain ⟨prompt, completion, cached, writes, writes1h, image⟩ :=
    @buildTieredTokenParams_openAI usage
      (convertedUses preview.cacheWriteMode input.effective) notAnthropic
      counts (by simp [convertedUses, textLaneUses])
  have promptLeft :
      (buildTieredTokenParams usage false
          (convertedUses preview.cacheWriteMode input.effective)).p =
        max (rest + foldedTokens input usage) 0 := by
    rw [prompt]
    congr 1
    simp only [rest, foldedTokens, ← converted.mode]
    cases modeEq : preview.cacheWriteMode <;>
      by_cases imageAtInput : input.effective.imageRatio = 1 <;>
      by_cases cacheAtInput : input.effective.cacheRatio = 1 <;>
      simp [convertedUses, textLaneUses, imageAtInput, cacheAtInput, noWrites, modeEq]
    all_goals ring
  rw [uses, text, eval_baseTier (audioFree _) apart, mergeEq]
  congr 1
  simp only [textUnits, promptLeft, completion, cached, writes, writes1h,
    image, openAIUnits, foldedTokens, ← converted.mode]
  generalize max (rest + _) 0 = left
  generalize max _ (0 : Rat) = plain
  cases modeEq : preview.cacheWriteMode <;>
    by_cases imageAtInput : input.effective.imageRatio = 1 <;>
    by_cases cacheAtInput : input.effective.cacheRatio = 1 <;>
    simp [imageAtInput, cacheAtInput, noWrites, modeEq] <;>
    ring

theorem max_add_sub_eq_iff {left folded : Rat} (nonneg : 0 ≤ folded) :
    max left 0 = max (left + folded) 0 - folded ↔ folded = 0 ∨ 0 ≤ left := by
  constructor
  · intro equal
    by_cases leftNonneg : 0 ≤ left
    · exact Or.inr leftNonneg
    have leftNeg : left < 0 := lt_of_not_ge leftNonneg
    rw [max_eq_right leftNeg.le] at equal
    rcases le_total (left + folded) 0 with below | above
    · rw [max_eq_right below] at equal
      exact Or.inl (by linarith)
    · rw [max_eq_left above] at equal
      linarith
  · rintro (rfl | leftNonneg)
    · simp
    · rw [max_eq_left leftNonneg, max_eq_left (by linarith)]
      ring

/-- The bill of an OpenAI usage survives the conversion exactly when no token
was folded into the input price, or the categories fit into the prompt. -/
theorem openAIBill_kept_iff {input : ConversionInput} {preview : ModelPricingConversion}
    {relayInfo : RelayInfo} {usage : Usage}
    (converted : previewModelPricingConversion input = .ok (.inr preview))
    (noAudioTerms :
      preview.expression.usedVars .ai = false ∧ preview.expression.usedVars .ao = false)
    (relays : RelaysPricing relayInfo input)
    (openAI : OpenAISemantics relayInfo usage)
    (counts : CountsNonneg usage)
    (noWrites :
      preview.cacheWriteMode = .none → usage.promptTokensDetails.cacheCreationTokensTotal = 0)
    (positive : 0 < textQuotaDecimal input.quotaPerUnit relayInfo usage) :
    textQuotaDecimal input.quotaPerUnit relayInfo usage =
        convertedQuota input preview relayInfo usage false ↔
      foldedTokens input usage = 0 ∨
        usage.promptTokensDetails.cachedTokens +
            usage.promptTokensDetails.cacheCreationTokensTotal +
            usage.promptTokensDetails.imageTokens ≤
          usage.promptTokens := by
  obtain ⟨ratio, parts⟩ := previewModelPricingConversion_converted converted
  have ratioEq : ratio = relayInfo.priceData.modelRatio := by
    have configured := parts.ratioConfigured
    rw [relays.modelRatio] at configured
    exact (Option.some.inj configured).symm
  subst ratioEq
  have quotaEq := textQuotaDecimal_openAI relays openAI counts
  rw [quotaEq] at positive ⊢
  have ratioNonzero : relayInfo.priceData.modelRatio ≠ 0 := by
    intro zero
    rw [zero, zero_mul, mul_zero] at positive
    exact lt_irrefl 0 positive
  have foldedNonneg : (0 : Rat) ≤ foldedTokens input usage := by
    exact_mod_cast foldedTokens_nonneg input counts
  rw [convertedQuota,
    textUnits_openAI parts noAudioTerms.1 openAI.usageSemantic counts noWrites ratioNonzero,
    bill_eq_iff parts.quotaUnit positive]
  have unitsIff (units left folded : Rat) :
      units = units - max left 0 + (max (left + folded) 0 - folded) ↔
        max left 0 = max (left + folded) 0 - folded := by
    constructor <;> intro equal <;> linarith
  rw [unitsIff, max_add_sub_eq_iff foldedNonneg]
  have fits : (0 : Rat) ≤
          (usage.promptTokens : Rat) - usage.promptTokensDetails.cachedTokens -
            usage.promptTokensDetails.cacheCreationTokensTotal -
            usage.promptTokensDetails.imageTokens ↔
        usage.promptTokensDetails.cachedTokens +
            usage.promptTokensDetails.cacheCreationTokensTotal +
            usage.promptTokensDetails.imageTokens ≤
          usage.promptTokens := by
    rw [← @Int.cast_le Rat]
    push_cast
    constructor <;> intro bound <;> linarith
  rw [fits]
  exact or_congr_left (by exact_mod_cast Iff.rfl)

def imageModel : ConversionInput where
  quotaPerUnit := 500000
  name := "gpt-4o"
  createCacheConfigured := false
  geminiInputAudioPrice := 0
  effective :=
    { modelRatio := some (5 / 4)
      completionRatio := 4
      cacheRatio := 1 / 2
      createCacheRatio := 5 / 4
      imageRatio := 1 }

def imageModelPreview : ModelPricingConversion where
  cacheWriteMode := .none
  billingDetails := {}
  expression :=
    .tier "base"
      (addLanes (.mul (.var .p) (.num (5 / 2)))
        [⟨.c, 10⟩, ⟨.cr, 5 / 4⟩])

def imageModelRelay : RelayInfo where
  priceData :=
    { usePrice := false
      modelPrice := 0
      modelRatio := 5 / 4
      completionRatio := 4
      cacheRatio := 1 / 2
      imageRatio := 1
      cacheCreationRatio := 5 / 4
      cacheCreation5mRatio := 5 / 4
      cacheCreation1hRatio := 2
      groupRatio := 1
      otherRatios := [] }
  claudeRelayFormat := false
  openRouterChannel := false
  customModelRatio := false
  geminiInputAudioPrice := 0
  toolCallSurchargeQuota := 0

theorem imageModel_converts :
    previewModelPricingConversion imageModel = .ok (.inr imageModelPreview) := by
  decide +kernel

theorem imageModel_relays : RelaysPricing imageModelRelay imageModel := by
  constructor <;> rfl

def imageUsage (cached image : Int) : Usage where
  promptTokens := 10
  completionTokens := 0
  promptTokensDetails := { cachedTokens := cached, imageTokens := image }

theorem openAIBill_kept_apart : textQuotaDecimal 500000 imageModelRelay (imageUsage 4 5) =
      convertedQuota imageModel imageModelPreview imageModelRelay (imageUsage 4 5) false :=
  (openAIBill_kept_iff imageModel_converts (by decide) imageModel_relays ⟨by decide, by decide⟩
    ⟨by decide, by decide, by decide, by decide, rfl⟩
    (fun _ => rfl) (by decide +kernel)).mpr (Or.inr (by decide))

/-- Cached image tokens: the ratio bill is `8 / 2 + 5` units, the expression
charges `2 + 8 / 2`. -/
theorem openAIBill_lost_overlap :
    previewModelPricingConversion imageModel = .ok (.inr imageModelPreview) ∧
      (imageModelPreview.expression.usedVars .ai = false ∧
        imageModelPreview.expression.usedVars .ao = false) ∧
      RelaysPricing imageModelRelay imageModel ∧
      OpenAISemantics imageModelRelay (imageUsage 8 5) ∧
      CountsNonneg (imageUsage 8 5) ∧
      (imageUsage 8 5).promptTokensDetails.cacheCreationTokensTotal = 0 ∧
      0 < textQuotaDecimal 500000 imageModelRelay (imageUsage 8 5) ∧
      textQuotaDecimal 500000 imageModelRelay (imageUsage 8 5) ≠
        convertedQuota imageModel imageModelPreview imageModelRelay (imageUsage 8 5) false := by
  refine ⟨imageModel_converts, by decide, imageModel_relays,
    ⟨by decide, by decide⟩, ⟨by decide, by decide, by decide, by decide, rfl⟩,
    rfl, ?_, ?_⟩
  · decide +kernel
  · decide +kernel

/-! ## Claude usages -/

structure RelaysClaudePricing (relayInfo : RelayInfo) (input : ConversionInput) : Prop extends
    RelaysPricing relayInfo input where
  cacheCreation5mRatio :
    relayInfo.priceData.cacheCreation5mRatio = relayInfo.priceData.cacheCreationRatio
  cacheCreation1hRatio :
    relayInfo.priceData.cacheCreation1hRatio = 1.6 * relayInfo.priceData.cacheCreationRatio

/-- A Claude usage whose counts are not negative and whose split does not
exceed the total. -/
structure ClaudeUsage.Consistent (usage : ClaudeUsage) : Prop where
  input : 0 ≤ usage.inputTokens
  output : 0 ≤ usage.outputTokens
  cacheRead : 0 ≤ usage.cacheReadInputTokens
  creation : 0 ≤ usage.cacheCreationInputTokens
  split5m : 0 ≤ usage.cacheCreationSplit.1
  split1h : 0 ≤ usage.cacheCreationSplit.2
  splitFits :
    usage.cacheCreationSplit.1 + usage.cacheCreationSplit.2 ≤ usage.cacheCreationInputTokens

/-- The cache creation that ratio billing charges for a Claude usage. -/
def claudeCreation (quotaPerUnit : Rat) (relayInfo : RelayInfo) (usage : ClaudeUsage) : Int :=
  if relayInfo.openRouterChannel then
    openRouterCacheCreation quotaPerUnit relayInfo usage.canonicalClaudeUsage
  else usage.cacheCreationInputTokens

/-- The tokens at the input price that ratio billing charges for a Claude
usage. -/
def claudePrompt (quotaPerUnit : Rat) (relayInfo : RelayInfo) (usage : ClaudeUsage) : Int :=
  if relayInfo.openRouterChannel then
    usage.inputTokens - usage.cacheReadInputTokens -
      openRouterCacheCreation quotaPerUnit relayInfo usage.canonicalClaudeUsage
  else usage.inputTokens

theorem canonicalClaudeUsage_creationTotal {usage : ClaudeUsage} (consistent : usage.Consistent) :
    usage.canonicalClaudeUsage.promptTokensDetails.cacheCreationTokensTotal =
      usage.cacheCreationInputTokens := by
  have creation := consistent.creation
  simp only [ClaudeUsage.canonicalClaudeUsage, InputTokenDetails.cacheCreationTokensTotal]
  split_ifs <;> omega

theorem split_le_claudeCreation (quotaPerUnit : Rat) (relayInfo : RelayInfo) {usage : ClaudeUsage}
    (consistent : usage.Consistent) :
    usage.cacheCreationSplit.1 + usage.cacheCreationSplit.2 ≤
      claudeCreation quotaPerUnit relayInfo usage := by
  have total := canonicalClaudeUsage_creationTotal consistent
  have fits := consistent.splitFits
  unfold claudeCreation openRouterCacheCreation
  dsimp only
  rw [total]
  split_ifs with openRouter derived
  · have notNegative := derived.2.2.2.1
    have none := derived.1
    omega
  · exact fits
  · exact fits

/-- The input units of ratio billing for a Claude usage. -/
def claudeUnits (quotaPerUnit : Rat) (relayInfo : RelayInfo) (effective : TokenPricing)
    (usage : ClaudeUsage) : Rat :=
  max (claudePrompt quotaPerUnit relayInfo usage : Rat) 0 +
    usage.cacheReadInputTokens * effective.cacheRatio +
    (claudeCreation quotaPerUnit relayInfo usage -
        usage.cacheCreationSplit.1 - usage.cacheCreationSplit.2) *
      effective.createCacheRatio +
    usage.cacheCreationSplit.1 * effective.createCacheRatio +
    usage.cacheCreationSplit.2 * (effective.createCacheRatio * (8 / 5)) +
    usage.outputTokens * effective.completionRatio

theorem textQuotaDecimal_claude {usage : ClaudeUsage}
    (relays : RelaysClaudePricing relayInfo input) (consistent : usage.Consistent) :
    textQuotaDecimal input.quotaPerUnit relayInfo usage.canonicalClaudeUsage =
      claudeUnits input.quotaPerUnit relayInfo input.effective usage *
        (relayInfo.priceData.modelRatio * relayInfo.priceData.groupRatio) := by
  have total := canonicalClaudeUsage_creationTotal consistent
  have fits := split_le_claudeCreation input.quotaPerUnit relayInfo consistent
  have split5m := consistent.split5m
  have split1h := consistent.split1h
  have summaryEq : textQuotaSummary input.quotaPerUnit relayInfo usage.canonicalClaudeUsage =
        { promptTokens := claudePrompt input.quotaPerUnit relayInfo usage
          completionTokens := usage.outputTokens
          cacheTokens := usage.cacheReadInputTokens
          cacheCreationTokens := claudeCreation input.quotaPerUnit relayInfo usage
          cacheCreationTokens5m := usage.cacheCreationSplit.1
          cacheCreationTokens1h := usage.cacheCreationSplit.2
          imageTokens := 0
          audioTokens := 0
          isClaudeUsageSemantic := true } := by
    unfold textQuotaSummary claudePrompt claudeCreation
    dsimp only
    rw [total]
    cases relayInfo.openRouterChannel <;>
      simp [usageSemanticFromUsage, ClaudeUsage.canonicalClaudeUsage]
  have remaining :
      max
          (claudeCreation input.quotaPerUnit relayInfo usage -
            usage.cacheCreationSplit.1 - usage.cacheCreationSplit.2)
          0 =
        claudeCreation input.quotaPerUnit relayInfo usage -
          usage.cacheCreationSplit.1 - usage.cacheCreationSplit.2 := by
    omega
  unfold textQuotaDecimal claudeUnits
  simp only [summaryEq, remaining, relays.perToken, relays.noToolCalls,
    relays.noOtherRatios, PriceData.applyOtherRatios, relays.completionRatio,
    relays.cacheRatio, relays.cacheCreation5mRatio,
    relays.cacheCreation1hRatio, relays.cacheCreationRatio, max_zero_eq_ite]
  -- Without a cache creation the three charges vanish.
  generalize claudeCreation input.quotaPerUnit relayInfo usage = creation at *
  by_cases anyCreation :
      creation ≠ 0 ∨ 0 < usage.cacheCreationSplit.1 ∨ 0 < usage.cacheCreationSplit.2
  · simp [anyCreation, -mul_eq_mul_right_iff]
    ring
  · have creationZero : creation = 0 := by omega
    have zero5m : usage.cacheCreationSplit.1 = 0 := by omega
    have zero1h : usage.cacheCreationSplit.2 = 0 := by omega
    simp [creationZero, zero5m, zero1h]

theorem textUnits_claude {usage : ClaudeUsage} (converted : Converted input preview ratio)
    (claude : claudeNamed input.name = true) (consistent : usage.Consistent)
    (ratioNonzero : ratio ≠ 0) :
    preview.expression.eval
        (buildTieredTokenParams usage.canonicalClaudeUsage true preview.expression.usedVars) =
      ratio * 1000000 / input.quotaPerUnit *
        ((usage.inputTokens : Rat) + usage.outputTokens * input.effective.completionRatio +
          usage.cacheReadInputTokens * input.effective.cacheRatio +
          usage.cacheCreationSplit.1 * input.effective.createCacheRatio +
          usage.cacheCreationSplit.2 * (input.effective.createCacheRatio * (8 / 5))) := by
  have mode : preview.cacheWriteMode = .claudeTTL := by
    rw [converted.mode]
    simp [resolveCacheWriteMode, claude]
  have unitNonzero : input.quotaPerUnit ≠ 0 := ne_of_gt converted.quotaUnit
  have baseNonzero : ratio * 1000000 / input.quotaPerUnit ≠ 0 := by simp [ratioNonzero, unitNonzero]
  have apart :
      (preview.billingDetails.audioOutputPrice.isSome &&
        !preview.billingDetails.audioTextBranches) = false := by
    cases output : preview.billingDetails.audioOutputPrice.isSome with
    | false => rfl
    | true =>
      have branches := converted.writesNeedBranches output (by rw [mode]; decide)
      simp [branches]
  have mergeEq :
      mergeCacheRead (ratio * 1000000 / input.quotaPerUnit)
          preview.cacheWriteMode input.effective preview.billingDetails =
        false := by
    simp [mergeCacheRead, baseNonzero, mode]
  have usesCacheRead : preview.expression.usedVars .cr = true := by
    rcases converted.expression with
      ⟨text, _⟩ | ⟨audioInput, audioOutput, branches⟩
    · rw [text, usedVars_baseTier apart, mergeEq]
      simp [textLaneUses]
    · rw [branches]
      simp only [usedVars]
      rw [usedVars_baseTier apart, mergeEq]
      simp [textLaneUses]
  have audioFree :
      lanesCost (buildTieredTokenParams usage.canonicalClaudeUsage true preview.expression.usedVars)
          (audioLanes preview.billingDetails) =
        0 :=
    lanesCost_audioLanes _ _ (by simp [buildTieredTokenParams, ClaudeUsage.canonicalClaudeUsage])
      (by simp [buildTieredTokenParams, ClaudeUsage.canonicalClaudeUsage])
  have textEval :
      preview.expression.eval
          (buildTieredTokenParams usage.canonicalClaudeUsage true preview.expression.usedVars) =
        (baseTier (ratio * 1000000 / input.quotaPerUnit) preview.cacheWriteMode input.effective
          preview.billingDetails).eval
          (buildTieredTokenParams usage.canonicalClaudeUsage true preview.expression.usedVars) := by
    rcases converted.expression with
      ⟨text, _⟩ | ⟨audioInput, audioOutput, branches⟩
    · rw [← text]
    · generalize preview.expression.usedVars = used
      rw [branches]
      simp [eval, PriceCondition.holds, TokenParams.get,
        buildTieredTokenParams, ClaudeUsage.canonicalClaudeUsage]
  have inputNonneg : ¬ (usage.inputTokens : Rat) < 0 := by
    exact_mod_cast not_lt.mpr consistent.input
  have outputNonneg : ¬ (usage.outputTokens : Rat) < 0 := by
    exact_mod_cast not_lt.mpr consistent.output
  rw [textEval, eval_baseTier audioFree apart, mergeEq, mode]
  refine congrArg (HMul.hMul _) ?_
  simp [textUnits, buildTieredTokenParams, ClaudeUsage.canonicalClaudeUsage,
    usesCacheRead, inputNonneg, outputNonneg]

/-- The condition under which a Claude bill survives the conversion.  The split
has to make up the cache creation, unless writes are free.  On an OpenRouter
channel ratio billing also takes the cache out of the input, and what is left
of the creation has to make up for that. -/
def SplitPaysCreation (quotaPerUnit : Rat) (relayInfo : RelayInfo) (effective : TokenPricing)
    (usage : ClaudeUsage) : Prop :=
  if relayInfo.openRouterChannel then
    let creation := openRouterCacheCreation quotaPerUnit relayInfo usage.canonicalClaudeUsage
    ((creation - usage.cacheCreationSplit.1 - usage.cacheCreationSplit.2 :
        Int) : Rat) *
        effective.createCacheRatio =
      min usage.inputTokens (usage.cacheReadInputTokens + creation)
  else
    usage.cacheCreationSplit.1 + usage.cacheCreationSplit.2 =
        usage.cacheCreationInputTokens ∨
      effective.createCacheRatio = 0

theorem splitPaysCreation_iff
    (quotaPerUnit : Rat) (relayInfo : RelayInfo) (effective : TokenPricing)
    {usage : ClaudeUsage} (consistent : usage.Consistent) :
    SplitPaysCreation quotaPerUnit relayInfo effective usage ↔
      max (claudePrompt quotaPerUnit relayInfo usage : Rat) 0 +
          (claudeCreation quotaPerUnit relayInfo usage -
              usage.cacheCreationSplit.1 - usage.cacheCreationSplit.2) *
            effective.createCacheRatio =
        usage.inputTokens := by
  have inputNonneg : (0 : Rat) ≤ usage.inputTokens := by exact_mod_cast consistent.input
  unfold SplitPaysCreation claudePrompt claudeCreation
  split_ifs with openRouter
  · dsimp only
    generalize openRouterCacheCreation quotaPerUnit relayInfo usage.canonicalClaudeUsage = creation
    push_cast
    have takenOut : max ((usage.inputTokens : Rat) - usage.cacheReadInputTokens - creation) 0 =
          usage.inputTokens -
            min (usage.inputTokens : Rat) (usage.cacheReadInputTokens + creation) := by
      rcases le_total (usage.inputTokens : Rat)
          (usage.cacheReadInputTokens + creation) with exceeds | fits
      · rw [min_eq_left exceeds, max_eq_right (by linarith), sub_self]
      · rw [min_eq_right fits, max_eq_left (by linarith), sub_sub]
    rw [takenOut]
    constructor <;> intro equal <;> linarith
  · rw [max_eq_left inputNonneg, add_eq_left, mul_eq_zero]
    refine or_congr_left ?_
    rw [← @Int.cast_inj Rat]
    push_cast
    constructor <;> intro equal <;> linarith

/-- The bill of a Claude usage survives the conversion exactly when the
reported split pays for the cache creation. -/
theorem claudeBill_kept_iff {input : ConversionInput} {preview : ModelPricingConversion}
    {relayInfo : RelayInfo} {usage : ClaudeUsage}
    (converted : previewModelPricingConversion input = .ok (.inr preview))
    (claude : claudeNamed input.name = true)
    (relays : RelaysClaudePricing relayInfo input) (consistent : usage.Consistent)
    (positive : 0 < textQuotaDecimal input.quotaPerUnit relayInfo usage.canonicalClaudeUsage) :
    textQuotaDecimal input.quotaPerUnit relayInfo usage.canonicalClaudeUsage =
        convertedQuota input preview relayInfo usage.canonicalClaudeUsage true ↔
      SplitPaysCreation input.quotaPerUnit relayInfo input.effective usage := by
  obtain ⟨ratio, parts⟩ := previewModelPricingConversion_converted converted
  have ratioEq : ratio = relayInfo.priceData.modelRatio := by
    have configured := parts.ratioConfigured
    rw [relays.modelRatio] at configured
    exact (Option.some.inj configured).symm
  subst ratioEq
  rw [textQuotaDecimal_claude relays consistent] at positive ⊢
  have ratioNonzero : relayInfo.priceData.modelRatio ≠ 0 := by
    intro zero
    rw [zero, zero_mul, mul_zero] at positive
    exact lt_irrefl 0 positive
  rw [convertedQuota, textUnits_claude parts claude consistent ratioNonzero,
    bill_eq_iff parts.quotaUnit positive, splitPaysCreation_iff _ _ _ consistent, claudeUnits]
  constructor <;> intro equal <;> linarith

def claudeModel : ConversionInput where
  quotaPerUnit := 500000
  name := "claude-sonnet-4"
  createCacheConfigured := true
  geminiInputAudioPrice := 0
  effective :=
    { modelRatio := some (3 / 2)
      completionRatio := 5
      cacheRatio := 1 / 10
      createCacheRatio := 5 / 4
      imageRatio := 1 }

def claudeModelPreview : ModelPricingConversion where
  cacheWriteMode := .claudeTTL
  billingDetails := {}
  expression :=
    .tier "base"
      (addLanes (.mul (.var .p) (.num 3))
        [⟨.c, 15⟩, ⟨.cr, 3 / 10⟩, ⟨.cc, 15 / 4⟩, ⟨.cc1h, 6⟩])

def claudeModelRelay : RelayInfo where
  priceData :=
    { usePrice := false
      modelPrice := 0
      modelRatio := 3 / 2
      completionRatio := 5
      cacheRatio := 1 / 10
      imageRatio := 1
      cacheCreationRatio := 5 / 4
      cacheCreation5mRatio := 5 / 4
      cacheCreation1hRatio := 2
      groupRatio := 1
      otherRatios := [] }
  claudeRelayFormat := true
  openRouterChannel := false
  customModelRatio := false
  geminiInputAudioPrice := 0
  toolCallSurchargeQuota := 0

theorem claudeModel_converts :
    previewModelPricingConversion claudeModel = .ok (.inr claudeModelPreview) := by
  decide +kernel

theorem claudeModel_relays : RelaysClaudePricing claudeModelRelay claudeModel where
  perToken := rfl
  modelRatio := rfl
  completionRatio := rfl
  cacheRatio := rfl
  imageRatio := rfl
  cacheCreationRatio := rfl
  noOtherRatios := rfl
  noToolCalls := rfl
  cacheCreation5mRatio := rfl
  cacheCreation1hRatio := by decide +kernel

def cacheWriteUsage (split : Option ClaudeCacheCreationUsage) :
    ClaudeUsage where
  inputTokens := 100
  cacheCreationInputTokens := 1000
  cacheReadInputTokens := 0
  outputTokens := 10
  cacheCreation := split
  claudeCacheCreation5mTokens := 0
  claudeCacheCreation1hTokens := 0

theorem claudeBill_kept_split :
    textQuotaDecimal 500000 claudeModelRelay
        (cacheWriteUsage (some ⟨600, 400⟩)).canonicalClaudeUsage =
      convertedQuota claudeModel claudeModelPreview claudeModelRelay
        (cacheWriteUsage (some ⟨600, 400⟩)).canonicalClaudeUsage true :=
  (claudeBill_kept_iff claudeModel_converts (by decide) claudeModel_relays
    ⟨by decide, by decide, by decide, by decide, by decide, by decide, by decide⟩
    (by decide +kernel)).mpr (Or.inl rfl)

/-- Only the total is reported: the expression does not charge the thousand
written tokens. -/
theorem claudeBill_lost_total :
    previewModelPricingConversion claudeModel = .ok (.inr claudeModelPreview) ∧
      claudeNamed claudeModel.name = true ∧
      RelaysClaudePricing claudeModelRelay claudeModel ∧
      (cacheWriteUsage none).Consistent ∧
      0 < textQuotaDecimal 500000 claudeModelRelay (cacheWriteUsage none).canonicalClaudeUsage ∧
      textQuotaDecimal 500000 claudeModelRelay (cacheWriteUsage none).canonicalClaudeUsage ≠
        convertedQuota claudeModel claudeModelPreview claudeModelRelay
          (cacheWriteUsage none).canonicalClaudeUsage true := by
  refine ⟨claudeModel_converts, by decide, claudeModel_relays,
    ⟨by decide, by decide, by decide, by decide, by decide, by decide, by decide⟩, ?_, ?_⟩
  · decide +kernel
  · decide +kernel

end NewApi.Pricing
