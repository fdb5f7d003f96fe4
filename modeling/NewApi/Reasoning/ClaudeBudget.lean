import Mathlib.Algebra.Order.Ring.Int
import NewApi.Reasoning.Intent

/-!
# The thinking budget of a Claude request

`relaykit/relayconvert/reasoning/claude.go`: a reasoning intent becomes a
thinking block.  A model that thinks by hand gets a budget below `max_tokens`,
as asked or as a share of `max_tokens`, which is computed in 64 bits.
-/

namespace NewApi.Reasoning

open GoStrings

structure ClaudeCapabilities where
  adaptive : Bool := false
  supportsManual : Bool := true
  defaultThinking : Bool := false
  supportsDisable : Bool := true
  disableAsBetweenTools : Bool := false
  supportsEffort : Bool := false
  supportsXHigh : Bool := false
  supportsMax : Bool := false
  strictSampling : Bool := false
  offEffortAtMostHigh : Bool := false
  defaultEffort : String := "high"

structure Thinking where
  type : String
  budgetTokens : Option Int := none
  display : String := ""

structure ClaudeRender where
  thinking : Option Thinking := none
  outputEffort : String := ""
  effectiveEffort : String := ""
  clearSampling : Bool := false
  constrainThinkingSampling : Bool := false
  /-- The raised `max_tokens`. -/
  maxTokens : Option Nat := none

def thinkingDisplay : Option Bool → String
  | none => ""
  | some true => "summarized"
  | some false => "omitted"

section Capabilities

variable (mapping : CaseMapping) (model : String)

def claudeCapabilitiesFor : ClaudeCapabilities :=
  let starts := hasPrefix (toLower mapping model)
  if starts "claude-fable-5" || starts "claude-mythos-5" then
    { adaptive := true, supportsManual := false, defaultThinking := true, supportsDisable := false,
      supportsEffort := true, supportsXHigh := true, supportsMax := true, strictSampling := true }
  else if starts "claude-mythos-preview" then
    { adaptive := true, defaultThinking := true, supportsDisable := false, supportsEffort := true,
      supportsMax := true, strictSampling := true }
  else if starts "claude-opus-5-5" || starts "claude-sonnet-5-5" then
    { adaptive := true, supportsManual := false, defaultThinking := true, supportsDisable := false,
      disableAsBetweenTools := starts "claude-sonnet-5-5",
      offEffortAtMostHigh := starts "claude-sonnet-5-5",
      defaultEffort := if starts "claude-opus-5-5" then "medium" else "high",
      supportsEffort := true, supportsXHigh := true, supportsMax := true, strictSampling := true }
  else if starts "claude-opus-5" || starts "claude-sonnet-5" || starts "claude-haiku-5" ||
      starts "claude-opus-4-8" || starts "claude-opus-4-7" then
    { adaptive := true, supportsManual := false,
      defaultThinking :=
        starts "claude-opus-5" || starts "claude-sonnet-5" || starts "claude-haiku-5",
      offEffortAtMostHigh := starts "claude-opus-5" || starts "claude-haiku-5",
      defaultEffort := if starts "claude-haiku-5" then "medium" else "high",
      supportsEffort := true, supportsXHigh := true, supportsMax := true, strictSampling := true }
  else if starts "claude-opus-4-6" || starts "claude-sonnet-4-6" then
    { adaptive := true, supportsEffort := true, supportsMax := true }
  else if starts "claude-opus-4-5" then { supportsEffort := true }
  else {}

def normalizeClaudeEffort (effort : String) (capabilities : ClaudeCapabilities) : String :=
  if effort = "minimal" then "low"
  else if effort = "xhigh" then
    if capabilities.supportsXHigh then effort
    else if capabilities.supportsMax then "max"
    else "high"
  else if effort = "max" then if capabilities.supportsMax then effort else "high"
  else effort

def claudeEffort (effort : String) : String :=
  let capabilities := claudeCapabilitiesFor mapping model
  if !capabilities.supportsEffort || effort = "" || effort = "none" then ""
  else normalizeClaudeEffort effort capabilities

/-- `adapterPercentage` is `int(math.Round(adapterBudgetPercentage * 100))`. -/
def effortPercentage (effort : String) (adapterPercentage : Int) : Int :=
  if effort = "minimal" then 5
  else if effort = "low" then 20
  else if effort = "medium" then 50
  else if effort = "high" then 80
  else if effort = "xhigh" ∨ effort = "max" then 95
  else if adapterPercentage ≤ 0 then 80
  else if 100 ≤ adapterPercentage then 99
  else adapterPercentage

/-! ## Rendering -/

/-- `RenderClaude` on an intent without strength. -/
def renderClaudeDefault (intent : Intent) : ClaudeRender :=
  let capabilities := claudeCapabilitiesFor mapping model
  if intent.includeThoughts.isSome && capabilities.adaptive && capabilities.defaultThinking then
    { thinking := some { type := "adaptive", display := thinkingDisplay intent.includeThoughts },
      effectiveEffort := capabilities.defaultEffort, clearSampling := capabilities.strictSampling }
  else if capabilities.defaultThinking then
    { effectiveEffort := capabilities.defaultEffort, clearSampling := capabilities.strictSampling }
  else { clearSampling := capabilities.strictSampling }

/-- `RenderClaude` on an intent that turns thinking off. -/
def renderClaudeDisabled (intent : Intent) (disabledWithEffort : Bool) : ClaudeRender :=
  let capabilities := claudeCapabilitiesFor mapping model
  let outputEffort :=
    if disabledWithEffort && (capabilities.supportsDisable || capabilities.disableAsBetweenTools)
    then
      let effort := claudeEffort mapping model intent.effort
      if capabilities.offEffortAtMostHigh && (effort = "xhigh" || effort = "max") then "high"
      else effort
    else ""
  if capabilities.disableAsBetweenTools then
    { thinking := some { type := "between_tools" }, outputEffort, effectiveEffort := "none",
      clearSampling := capabilities.strictSampling }
  else if !capabilities.supportsDisable then
    if capabilities.adaptive then
      { thinking := some { type := "adaptive", display := thinkingDisplay intent.includeThoughts },
        outputEffort := if capabilities.supportsEffort then "low" else outputEffort,
        effectiveEffort :=
          if capabilities.supportsEffort then "low" else capabilities.defaultEffort,
        clearSampling := capabilities.strictSampling }
    else {}
  else
    { thinking := some { type := "disabled" }, outputEffort, effectiveEffort := "none",
      clearSampling := capabilities.strictSampling }

/-- `RenderClaude` on an intent for adaptive thinking. -/
def renderClaudeAdaptive (intent : Intent) : ClaudeRender :=
  let capabilities := claudeCapabilitiesFor mapping model
  let asked :=
    if intent.effort ≠ "" then intent.effort
    else
      match intent.budgetTokens with
      | some budget => effortFromBudget budget
      | none => if intent.mode = .enabled then capabilities.defaultEffort else ""
  let effort := normalizeClaudeEffort asked capabilities
  let effectiveEffort :=
    if effort = "" ∧ intent.mode = .adaptive then capabilities.defaultEffort else effort
  if intent.mode = .unset then
    { outputEffort := effort, effectiveEffort, clearSampling := capabilities.strictSampling }
  else
    { thinking := some { type := "adaptive", display := thinkingDisplay intent.includeThoughts },
      outputEffort := effort, effectiveEffort, clearSampling := capabilities.strictSampling,
      constrainThinkingSampling := !capabilities.strictSampling }

/-- The `max_tokens` of manual thinking. -/
def manualMaxTokens (intent : Intent) (maxTokens : Option Nat) : Nat :=
  if maxTokens.getD 0 ≤ 1024 then
    match intent.budgetTokens with
    | some budget => if 0 ≤ budget ∧ budget < 1073741823 then max 1280 (budget.toNat + 1) else 1280
    | none => 1280
  else maxTokens.getD 0

/-- The product is an `int`. -/
def manualBudget (intent : Intent) (maxTokens : Nat) (adapterPercentage : Int) : Int :=
  let lifted :=
    match intent.budgetTokens.filter (0 ≤ ·) with
    | some requested => max requested 1024
    | none =>
      max ((Int.bmod (maxTokens * effortPercentage intent.effort adapterPercentage) (2 ^ 64)).tdiv
        100) 1024
  if (maxTokens : Int) ≤ lifted then maxTokens - 1 else lifted

/-- The mode and the effort with which a model thinks that cannot adapt. -/
def manualIntent (intent : Intent) : Intent :=
  if intent.mode = .adaptive then
    { intent with
      mode := .enabled
      effort :=
        if intent.effort = "" then (claudeCapabilitiesFor mapping model).defaultEffort
        else intent.effort }
  else intent

/-- `RenderClaude` on an intent for thinking by hand; `none` is a `max_tokens`
that is too large. -/
def renderClaudeManual (intent : Intent) (maxTokens : Option Nat) (adapterPercentage : Int) :
    Option ClaudeRender :=
  let sent := manualMaxTokens intent maxTokens
  if 2 ^ 63 ≤ sent then none
  else
    let budget := manualBudget intent sent adapterPercentage
    let outputEffort := claudeEffort mapping model intent.effort
    let effectiveEffort :=
      if intent.budgetTokens.isSome && !(claudeCapabilitiesFor mapping model).supportsEffort ||
        intent.effort = "" then effortFromBudget budget
      else intent.effort
    some
      { thinking :=
          some { type := "enabled", budgetTokens := some budget,
                 display := thinkingDisplay intent.includeThoughts }
        outputEffort
        effectiveEffort := if outputEffort ≠ "" then outputEffort else effectiveEffort
        constrainThinkingSampling := true
        maxTokens := if maxTokens.getD 0 ≤ 1024 then some sent else none }

variable (isKnownClaudeModel : String → Bool)

/-- `RenderClaude` on an intent with a strength that does not turn thinking
off. -/
def renderClaudeThinking (intent : Intent) (maxTokens : Option Nat) (adapterPercentage : Int) :
    Option ClaudeRender :=
  let capabilities := claudeCapabilitiesFor mapping model
  let preferManual :=
    capabilities.supportsManual && intent.budgetTokens.isSome && intent.mode ≠ .adaptive
  if capabilities.adaptive && !preferManual then some (renderClaudeAdaptive mapping model intent)
  else if intent.mode = .unset then
    let effort :=
      if isKnownClaudeModel model then claudeEffort mapping model intent.effort else intent.effort
    some { outputEffort := effort, effectiveEffort := if effort = "" then "none" else effort }
  else
    renderClaudeManual mapping model (manualIntent mapping model intent) maxTokens adapterPercentage

/-- `none` is an error. -/
def renderClaude (intent : Intent) (maxTokens : Option Nat) (adapterPercentage : Int) :
    Option ClaudeRender :=
  let disabledWithEffort := intent.mode = .disabled && intent.effort ≠ "" && intent.effort ≠ "none"
  let parsed :=
    if disabledWithEffort then
      (parseEffort mapping intent.effort).map fun effort => { intent with effort }
    else normalizeIntent mapping intent
  parsed.bind fun intent =>
    if !intent.hasStrength then some (renderClaudeDefault mapping model intent)
    else if intent.mode = .disabled ∨ intent.effort = "none" then
      some (renderClaudeDisabled mapping model intent disabledWithEffort)
    else
      renderClaudeThinking mapping model isKnownClaudeModel intent maxTokens adapterPercentage

end Capabilities

/-! ## Budgets as asked -/

section Budgets

variable {mapping : CaseMapping} {model : String} {isKnownClaudeModel : String → Bool}
  {intent : Intent} {maxTokens : Option Nat} {adapterPercentage : Int} {render : ClaudeRender}
  {thinking : Thinking}

def clampBudget (maxTokens : Nat) (budget : Int) : Int := max 1024 (min budget (maxTokens - 1))

variable (mapping model) in
/-- The share of `max_tokens` that an intent stands for. -/
def askedPercentage (intent : Intent) (adapterPercentage : Int) : Int :=
  effortPercentage
    (((normalizeIntent mapping intent).map fun intent =>
      (manualIntent mapping model intent).effort).getD "") adapterPercentage

/-- The budget fits `max_tokens`, and is the one asked for, or the exact share
`percentage` of `max_tokens`. -/
def BudgetAsAsked (intent : Intent) (percentage : Int) (maxTokens : Nat) (budget : Int) : Prop :=
  1024 ≤ budget ∧ budget < maxTokens ∧
    budget =
      clampBudget maxTokens
        ((intent.budgetTokens.filter (0 ≤ ·)).getD (maxTokens * percentage / 100))

theorem effortPercentage_range (effort : String) (adapterPercentage : Int) :
    0 < effortPercentage effort adapterPercentage ∧
      effortPercentage effort adapterPercentage ≤ 99 := by
  unfold effortPercentage
  split_ifs <;> omega

theorem lt_manualMaxTokens (intent : Intent) (maxTokens : Option Nat) :
    1024 < manualMaxTokens intent maxTokens := by
  unfold manualMaxTokens
  split
  · split
    · split <;> omega
    · omega
  · omega

theorem manualMaxTokens_eq (intent : Intent) (maxTokens : Option Nat) :
    ((if maxTokens.getD 0 ≤ 1024 then some (manualMaxTokens intent maxTokens) else none).or
      maxTokens).getD 0 = manualMaxTokens intent maxTokens := by
  by_cases low : maxTokens.getD 0 ≤ 1024
  · rw [if_pos low]
    rfl
  · rw [if_neg low, Option.none_or, manualMaxTokens, if_neg low]

/-- Without a budget a raised `max_tokens` is small. -/
theorem manualMaxTokens_fits {intent : Intent} (free : intent.budgetTokens.filter (0 ≤ ·) = none)
    (maxTokens : Option Nat) {percentage : Int} (range : 0 < percentage ∧ percentage ≤ 99) :
    manualMaxTokens intent maxTokens * percentage < 2 ^ 63 ↔
      maxTokens.getD 0 * percentage < 2 ^ 63 := by
  unfold manualMaxTokens
  split
  · rename_i low
    have below : ((maxTokens.getD 0 : Nat) : Int) * percentage ≤ 1024 * 99 :=
      mul_le_mul (by omega) range.2 range.1.le (by decide)
    split
    · rename_i budget given
      have negative : ¬ (0 ≤ budget ∧ budget < 1073741823) := by
        intro nonneg
        simp [given, Option.filter, nonneg.1] at free
      rw [if_neg negative]
      omega
    · omega
  · rfl

theorem manualIntent_budgetTokens (intent : Intent) :
    (manualIntent mapping model intent).budgetTokens = intent.budgetTokens := by
  unfold manualIntent
  split <;> rfl

theorem settleBudget_budgetTokens (intent : Intent) (budget : Int) :
    (settleBudget intent budget).budgetTokens = some budget := by
  unfold settleBudget
  split_ifs <;> rfl

theorem normalizeIntent_budgetTokens {normalized : Intent}
    (normal : normalizeIntent mapping intent = some normalized) :
    normalized.budgetTokens.filter (0 ≤ ·) = intent.budgetTokens.filter (0 ≤ ·) := by
  have lifted (budget : Int) : (some (if budget < -1 then -1 else budget)).filter (0 ≤ ·) =
      (some budget).filter (0 ≤ ·) := by
    split
    · have negative : ¬ 0 ≤ budget := by omega
      simp [Option.filter, negative]
    · rfl
  obtain ⟨effort, _, normal⟩ := Option.bind_eq_some_iff.mp normal
  cases mode : intent.mode with
  | unsupported text => simp [mode] at normal
  | _ =>
    simp only [mode] at normal
    rw [← Option.some.inj normal, apply_ite Intent.budgetTokens, ite_self]
    cases asked : intent.budgetTokens with
    | none => rfl
    | some budget => exact (congrArg _ (settleBudget_budgetTokens _ _)).trans (lifted budget)

theorem renderClaudeDefault_enabled
    (thinks : (renderClaudeDefault mapping model intent).thinking = some thinking) :
    thinking.type ≠ "enabled" := by
  unfold renderClaudeDefault at thinks
  dsimp only at thinks
  split_ifs at thinks
  cases thinks
  simp

theorem renderClaudeDisabled_enabled {disabledWithEffort : Bool}
    (thinks : (renderClaudeDisabled mapping model intent disabledWithEffort).thinking =
      some thinking) : thinking.type ≠ "enabled" := by
  unfold renderClaudeDisabled at thinks
  dsimp only at thinks
  split_ifs at thinks <;> cases thinks <;> simp

theorem renderClaudeAdaptive_enabled
    (thinks : (renderClaudeAdaptive mapping model intent).thinking = some thinking) :
    thinking.type ≠ "enabled" := by
  unfold renderClaudeAdaptive at thinks
  dsimp only at thinks
  split_ifs at thinks <;> cases thinks <;> simp

/-- Only thinking by hand is enabled thinking. -/
theorem renderClaude_enabled
    (rendered : renderClaude mapping model isKnownClaudeModel intent maxTokens adapterPercentage =
      some render)
    (thinks : render.thinking = some thinking) (enabled : thinking.type = "enabled") :
    ∃ normalized, normalizeIntent mapping intent = some normalized ∧
      renderClaudeManual mapping model (manualIntent mapping model normalized) maxTokens
        adapterPercentage = some render := by
  obtain ⟨normalized, parsed, rendered⟩ := Option.bind_eq_some_iff.mp rendered
  split_ifs at rendered with weak off
  · cases rendered
    exact absurd enabled (renderClaudeDefault_enabled thinks)
  · cases rendered
    exact absurd enabled (renderClaudeDisabled_enabled thinks)
  · refine ⟨normalized, ?_, ?_⟩
    · split_ifs at parsed with disabled
      · obtain ⟨effort, _, same⟩ := Option.map_eq_some_iff.mp parsed
        simp only [Bool.and_eq_true, decide_eq_true_eq] at disabled
        subst same
        exact absurd (Or.inl disabled.1.1) off
      · exact parsed
    · unfold renderClaudeThinking at rendered
      dsimp only at rendered
      split at rendered
      · cases rendered
        exact absurd enabled (renderClaudeAdaptive_enabled thinks)
      · split at rendered
        · cases rendered
          cases thinks
        · exact rendered

/-- The share of `max_tokens` is exact as long as the product fits 63 bits. -/
theorem manualBudget_asAsked_iff {sent : Nat} (room : 1024 < sent) (intent : Intent)
    (adapterPercentage : Int) :
    BudgetAsAsked intent (effortPercentage intent.effort adapterPercentage) sent
        (manualBudget intent sent adapterPercentage) ↔
      (intent.budgetTokens.filter (0 ≤ ·)).isSome = true ∨
        sent * effortPercentage intent.effort adapterPercentage < 2 ^ 63 := by
  have range := effortPercentage_range intent.effort adapterPercentage
  unfold BudgetAsAsked manualBudget clampBudget
  cases intent.budgetTokens.filter (0 ≤ ·) with
  | some requested =>
    simp only [Option.getD_some, Option.isSome_some, true_or, iff_true]
    split <;> omega
  | none =>
    generalize effortPercentage intent.effort adapterPercentage = percentage at range
    have bound : (sent : Int) * percentage ≤ sent * 99 :=
      mul_le_mul_of_nonneg_left range.2 (by omega)
    have positive : 0 < (sent : Int) * percentage := mul_pos (by omega) range.1
    generalize (sent : Int) * percentage = product at bound positive
    simp only [Option.getD_none, Option.isSome_none, Bool.false_eq_true, false_or]
    by_cases fits : product < 2 ^ 63
    · rw [Int.bmod_eq_of_le (by omega) (by omega), Int.tdiv_eq_ediv_of_nonneg positive.le]
      simp only [fits, iff_true]
      split <;> omega
    · have wrapped : Int.bmod product (2 ^ 64) ≤ product - 2 ^ 64 := by
        rw [Int.bmod_def]
        split <;> omega
      have share : (Int.bmod product (2 ^ 64)).tdiv 100 ≤ Int.bmod product (2 ^ 64) / 100 + 1 := by
        rw [Int.tdiv_eq_ediv]
        split
        · omega
        · exact le_rfl
      simp only [fits, iff_false]
      split <;> omega

theorem clampBudget_mono (sent : Nat) {weaker stronger : Int} (order : weaker ≤ stronger) :
    clampBudget sent (sent * weaker / 100) ≤ clampBudget sent (sent * stronger / 100) := by
  have product : (sent : Int) * weaker ≤ sent * stronger :=
    mul_le_mul_of_nonneg_left order (by omega)
  unfold clampBudget
  omega

/-- The budget of enabled thinking is the one asked for if and only if it is
given or the share is computed without wrapping; the exact shares do not
shrink with the effort. -/
theorem claude_budget_exact_iff
    (rendered : renderClaude mapping model isKnownClaudeModel intent maxTokens adapterPercentage =
      some render)
    (thinks : render.thinking = some thinking) (enabled : thinking.type = "enabled") :
    ((∃ budget, thinking.budgetTokens = some budget ∧
        BudgetAsAsked intent (askedPercentage mapping model intent adapterPercentage)
          ((render.maxTokens.or maxTokens).getD 0) budget) ↔
      (intent.budgetTokens.filter (0 ≤ ·)).isSome = true ∨
        maxTokens.getD 0 * askedPercentage mapping model intent adapterPercentage < 2 ^ 63) ∧
    ∀ sent : Nat, (efforts.tail.map (effortPercentage · adapterPercentage)).Pairwise
      fun weaker stronger =>
        clampBudget sent (sent * weaker / 100) ≤ clampBudget sent (sent * stronger / 100) := by
  obtain ⟨normalized, normal, manual⟩ := renderClaude_enabled rendered thinks enabled
  have asked : askedPercentage mapping model intent adapterPercentage =
      effortPercentage (manualIntent mapping model normalized).effort adapterPercentage := by
    simp [askedPercentage, normal]
  have budgets : (manualIntent mapping model normalized).budgetTokens.filter (0 ≤ ·) =
      intent.budgetTokens.filter (0 ≤ ·) := by
    rw [manualIntent_budgetTokens]
    exact normalizeIntent_budgetTokens normal
  refine ⟨?_, fun sent => ?_⟩
  · have range := effortPercentage_range (manualIntent mapping model normalized).effort
      adapterPercentage
    unfold renderClaudeManual at manual
    dsimp only at manual
    split at manual
    · cases manual
    cases manual
    cases thinks
    rw [asked, manualMaxTokens_eq]
    simp only [Option.some.injEq, exists_eq_left', BudgetAsAsked, ← budgets]
    refine (manualBudget_asAsked_iff (lt_manualMaxTokens _ _) _ _).trans ?_
    cases free : (manualIntent mapping model normalized).budgetTokens.filter (0 ≤ ·) with
    | some budget => simp
    | none => simpa using manualMaxTokens_fits free maxTokens range
  · have order : (efforts.tail.map (effortPercentage · adapterPercentage)).Pairwise (· ≤ ·) := by
      simp [efforts, effortPercentage]
    exact order.imp (clampBudget_mono sent)

end Budgets

/-- A missing `max_tokens` is raised to 1280; half of that is below the least budget,
so 1024 tokens are thought. -/
theorem claude_budget_medium :
    ∃ render thinking budget,
      renderClaude CaseMapping.ascii "claude-sonnet-4-5" (fun _ => true)
        { mode := .enabled, effort := "medium" } none 80 = some render ∧
      render.thinking = some thinking ∧ thinking.budgetTokens = some budget ∧
      BudgetAsAsked { mode := .enabled, effort := "medium" }
        (askedPercentage CaseMapping.ascii "claude-sonnet-4-5"
          { mode := .enabled, effort := "medium" } 80)
        ((render.maxTokens.or none).getD 0) budget := by
  with_unfolding_all
    have rendered : renderClaude CaseMapping.ascii "claude-sonnet-4-5" (fun _ => true)
        { mode := .enabled, effort := "medium" } none 80 = some _ := rfl
  obtain ⟨budget, given, asked⟩ :=
    (claude_budget_exact_iff rendered rfl rfl).1.mpr (Or.inr (by decide +kernel))
  exact ⟨_, _, budget, rendered, rfl, given, asked⟩

/-- At 2^62 the share of 80 percent wraps to zero. -/
theorem large_maxTokens_thinks_least :
    ∃ render thinking,
      renderClaude CaseMapping.ascii "claude-sonnet-4-5" (fun _ => true)
        { mode := .enabled, effort := "high" } (some (2 ^ 62)) 80 = some render ∧
      render.thinking = some thinking ∧ thinking.type = "enabled" ∧
      thinking.budgetTokens = some 1024 ∧
      ¬ BudgetAsAsked { mode := .enabled, effort := "high" } 80 (2 ^ 62) 1024 := by
  with_unfolding_all refine ⟨_, _, rfl, rfl, rfl, rfl, ?_⟩
  unfold BudgetAsAsked
  decide

end NewApi.Reasoning
