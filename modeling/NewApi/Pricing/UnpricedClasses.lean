import NewApi.Pricing.ConversionParity

/-!
# Token classes without a price of their own

A class of tokens that an expression does not name stays in the input or the
output, so pricing it exactly like its base should change no bill.  It does for
cached image tokens, which are then counted twice.
-/

namespace NewApi.Pricing

open PriceExpr Usage PriceVar

/-- `p` or `c`, whichever holds the tokens of a class without a price. -/
def PriceVar.base : PriceVar → PriceVar
  | .c | .imgO | .ao => .c
  | .p | .len | .cr | .cc | .cc1h | .img | .imgCR | .ai => .p

def PriceVar.isClass : PriceVar → Bool
  | .p | .c | .len => false
  | .cr | .cc | .cc1h | .img | .imgCR | .imgO | .ai | .ao => true

def linearTier (name : String) : List PriceLane → PriceExpr
  | [] => .tier name (.num 0)
  | lane :: lanes => .tier name (addLanes (.mul (.var lane.variable_) (.num lane.price)) lanes)

def lanesPrice (lanes : List PriceLane) (name : PriceVar) : Rat :=
  ((lanes.filter fun lane => lane.variable_ = name).map PriceLane.price).sum

section Lanes

variable {params : TokenParams} {name : PriceVar} {lanes : List PriceLane}

theorem eval_linearTier (tier : String) :
    (linearTier tier lanes).eval params = lanesCost params lanes := by
  cases lanes with
  | nil => rfl
  | cons lane lanes =>
    change (addLanes _ lanes).eval params = _
    rw [eval_addLanes, lanesCost_cons]
    rfl

theorem usedVars_linearTier (tier : String) : (linearTier tier lanes).usedVars name =
      lanes.any fun lane => decide (lane.variable_ = name) := by
  cases lanes with
  | nil => rfl
  | cons lane lanes =>
    change (addLanes _ lanes).usedVars name = _
    rw [usedVars_addLanes, List.any_cons]
    simp [usedVars]

theorem lanesPrice_cons (lane : PriceLane) : lanesPrice (lane :: lanes) name =
      (if lane.variable_ = name then lane.price else 0) + lanesPrice lanes name := by
  unfold lanesPrice
  by_cases same : lane.variable_ = name
  · simp [same]
  · simp [same]

theorem lanesCost_eq : lanesCost params lanes =
      params.p * lanesPrice lanes .p + params.c * lanesPrice lanes .c +
        params.len * lanesPrice lanes .len + params.cr * lanesPrice lanes .cr +
        params.cc * lanesPrice lanes .cc +
        params.cc1h * lanesPrice lanes .cc1h +
        params.img * lanesPrice lanes .img +
        params.imgCR * lanesPrice lanes .imgCR +
        params.imgO * lanesPrice lanes .imgO +
        params.ai * lanesPrice lanes .ai + params.ao * lanesPrice lanes .ao := by
  induction lanes with
  | nil => simp [lanesPrice]
  | cons lane lanes ih =>
    rw [lanesCost_cons, ih]
    simp only [lanesPrice_cons]
    cases lane.variable_ <;> simp [TokenParams.get] <;> ring

theorem lanesCost_of_change {later : TokenParams} {change : Rat}
    (changed : ∀ other, later.get other = params.get other - if name = other then change else 0) :
    lanesCost later lanes = lanesCost params lanes - change * lanesPrice lanes name := by
  induction lanes with
  | nil => simp [lanesPrice]
  | cons lane lanes ih =>
    rw [lanesCost_cons, lanesCost_cons, ih, changed, lanesPrice_cons]
    by_cases same : name = lane.variable_
    · rw [if_pos same, if_pos same.symm]
      ring
    · rw [if_neg same, if_neg (Ne.symm same)]
      ring

theorem lanesPrice_of_unused (unused : ∀ lane ∈ lanes, lane.variable_ ≠ name) :
    lanesPrice lanes name = 0 := by
  unfold lanesPrice
  rw [List.filter_eq_nil_iff.mpr]
  · rfl
  · intro lane member
    simpa using unused lane member

end Lanes

structure PricesAsBase (lanes longer : List PriceLane) (class_ : PriceVar) : Prop where
  isClass : class_.isClass = true
  unused : ∀ lane ∈ lanes, lane.variable_ ≠ class_
  longer : longer.Perm (⟨class_, lanesPrice lanes class_.base⟩ :: lanes)

namespace PricesAsBase

variable {lanes longer : List PriceLane} {class_ : PriceVar}

theorem cost (extended : PricesAsBase lanes longer class_) (params : TokenParams) :
    lanesCost params longer =
      params.get class_ * lanesPrice lanes class_.base + lanesCost params lanes := by
  unfold lanesCost
  rw [(extended.longer.map _).sum_eq, List.map_cons, List.sum_cons]

theorem uses (extended : PricesAsBase lanes longer class_) (name : PriceVar) :
    (longer.any fun lane => decide (lane.variable_ = name)) =
      (decide (class_ = name) || lanes.any fun lane => decide (lane.variable_ = name)) := by
  rw [extended.longer.any_eq, List.any_cons]

end PricesAsBase

/-! ## Counts -/

namespace Usage

/-- The cached image tokens, none without a consistent breakdown. -/
def cachedImages (usage : Usage) : Int := (cachedImageTokens usage).getD 0

def cacheWrites (usage : Usage) : Int × Int :=
  if usage.usageSemantic = "anthropic" then
    (usage.claudeCacheCreation5mTokens, usage.claudeCacheCreation1hTokens)
  else (usage.promptTokensDetails.cacheCreationTokensTotal, 0)

def count (usage : Usage) (used : PriceVar → Bool) (name : PriceVar) : Int :=
  let split := if used .imgCR then usage.cachedImages else 0
  match name with
  | .p | .len => usage.promptTokens
  | .c => usage.completionTokens
  | .cr => usage.promptTokensDetails.cachedTokens - split
  | .cc => usage.cacheWrites.1
  | .cc1h => usage.cacheWrites.2
  | .img => usage.promptTokensDetails.imageTokens - split
  | .imgCR => split
  | .imgO => usage.completionTokenDetails.imageTokens
  | .ai => usage.promptTokensDetails.audioTokens
  | .ao => usage.completionTokenDetails.audioTokens

/-- The tokens of the classes that an expression takes out of `p` or `c`. -/
def taken (usage : Usage) (used : PriceVar → Bool) (base : PriceVar) : Int :=
  ([PriceVar.cr, .cc, .cc1h, .img, .imgCR, .ai, .imgO, .ao].map fun name =>
    if decide (name.base = base) && used name then usage.count used name
    else 0).sum

/-- The classes that an expression prices fit into the reported totals. -/
def Fits (usage : Usage) (used : PriceVar → Bool) : Prop :=
  usage.taken used .p ≤ usage.promptTokens ∧ usage.taken used .c ≤ usage.completionTokens

structure Nonneg (usage : Usage) : Prop where
  prompt : 0 ≤ usage.promptTokens
  completion : 0 ≤ usage.completionTokens
  cached : 0 ≤ usage.promptTokensDetails.cachedTokens
  image : 0 ≤ usage.promptTokensDetails.imageTokens
  audio : 0 ≤ usage.promptTokensDetails.audioTokens
  imageOutput : 0 ≤ usage.completionTokenDetails.imageTokens
  audioOutput : 0 ≤ usage.completionTokenDetails.audioTokens
  writes5m : 0 ≤ usage.claudeCacheCreation5mTokens
  writes1h : 0 ≤ usage.claudeCacheCreation1hTokens

/-- The classes of the input do not overlap, apart from the cached images, and
the totals include them. -/
structure Disjoint (usage : Usage) : Prop extends usage.Nonneg where
  input :
    usage.promptTokensDetails.cachedTokens + usage.cacheWrites.1 +
        usage.cacheWrites.2 + usage.promptTokensDetails.imageTokens +
        usage.promptTokensDetails.audioTokens - usage.cachedImages ≤
      usage.promptTokens
  output :
    usage.completionTokenDetails.imageTokens +
        usage.completionTokenDetails.audioTokens ≤
      usage.completionTokens

/-- The cached images are counted once: the expression splits them off, or it
does not price both of the classes that contain them. -/
def CountsImagesOnce (usage : Usage) (used : PriceVar → Bool) : Prop :=
  used .imgCR = true ∨ usage.cachedImages = 0 ∨ ¬ (used .cr = true ∧ used .img = true)

end Usage

section OpenAI

variable {usage : Usage} {used : PriceVar → Bool}

theorem cachedImages_le (nonneg : usage.Nonneg) : 0 ≤ usage.cachedImages ∧
      usage.cachedImages ≤ usage.promptTokensDetails.cachedTokens ∧
        usage.cachedImages ≤ usage.promptTokensDetails.imageTokens := by
  unfold cachedImages
  cases split : cachedImageTokens usage with
  | none => exact ⟨le_rfl, nonneg.cached, nonneg.image⟩
  | some images =>
    unfold cachedImageTokens at split
    obtain ⟨details, _, split⟩ := Option.bind_eq_some_iff.mp split
    obtain ⟨count, _, split⟩ := Option.bind_eq_some_iff.mp split
    dsimp only at split
    split at split
    · rename_i consistent
      obtain ⟨remaining, _, split⟩ := Option.bind_eq_some_iff.mp split
      obtain ⟨rest, _, split⟩ := Option.bind_eq_some_iff.mp split
      cases split
      exact ⟨consistent.1, consistent.2.1, consistent.2.2.1⟩
    · cases split

theorem cacheWrites_nonneg (nonneg : usage.Nonneg) :
    0 ≤ usage.cacheWrites.1 ∧ 0 ≤ usage.cacheWrites.2 := by
  unfold cacheWrites
  by_cases anthropic : usage.usageSemantic = "anthropic"
  · rw [if_pos anthropic]
    exact ⟨nonneg.writes5m, nonneg.writes1h⟩
  · rw [if_neg anthropic]
    refine ⟨?_, le_rfl⟩
    unfold InputTokenDetails.cacheCreationTokensTotal
    dsimp only
    split
    · exact le_rfl
    · rename_i positive
      exact not_lt.mp positive

theorem count_nonneg (nonneg : usage.Nonneg) (name : PriceVar) : 0 ≤ usage.count used name := by
  obtain ⟨images, inCached, inImages⟩ := cachedImages_le nonneg
  obtain ⟨writes5m, writes1h⟩ := cacheWrites_nonneg nonneg
  cases name with
  | p | len => exact nonneg.prompt
  | c => exact nonneg.completion
  | cc => exact writes5m
  | cc1h => exact writes1h
  | imgO => exact nonneg.imageOutput
  | ai => exact nonneg.audio
  | ao => exact nonneg.audioOutput
  | cr =>
    simp only [count]
    split <;> omega
  | img =>
    have image := nonneg.image
    simp only [count]
    split <;> omega
  | imgCR =>
    simp only [count]
    split <;> omega

theorem params_openAI {name : PriceVar} (isClass : name.isClass = true) :
    (buildTieredTokenParams usage false used).get name = (usage.count used name : Int) := by
  cases name with
  | p | c | len => cases isClass
  | ai | imgO | ao => rfl
  | cc =>
    simp only [buildTieredTokenParams, TokenParams.get, count, cacheWrites]
    split <;> simp_all
  | cc1h =>
    simp only [buildTieredTokenParams, TokenParams.get, count, cacheWrites]
    split <;> simp_all
  | cr | img | imgCR =>
    simp only [buildTieredTokenParams, TokenParams.get, count, cachedImages]
    cases used .imgCR <;> simp

theorem base_openAI : (buildTieredTokenParams usage false used).p =
        (max (usage.promptTokens - usage.taken used .p) 0 : Int) ∧
      (buildTieredTokenParams usage false used).c =
        (max (usage.completionTokens - usage.taken used .c) 0 : Int) := by
  have ai := @params_openAI usage used .ai rfl
  have cr := @params_openAI usage used .cr rfl
  have cc := @params_openAI usage used .cc rfl
  have cc1h := @params_openAI usage used .cc1h rfl
  have img := @params_openAI usage used .img rfl
  have imgCR := @params_openAI usage used .imgCR rfl
  simp only [TokenParams.get] at ai cr cc cc1h img imgCR
  constructor
  · simp only [taken, base, List.map_cons, List.map_nil,
      List.sum_cons, List.sum_nil, reduceCtorEq, decide_true, decide_false,
      Bool.true_and, Bool.false_and, Bool.false_eq_true, if_false]
    push_cast
    rw [max_zero_eq_ite, ← ai, ← cr, ← cc, ← cc1h, ← img, ← imgCR]
    simp only [add_zero, ← sub_sub]
    rfl
  · simp only [taken, base, List.map_cons, List.map_nil,
      List.sum_cons, List.sum_nil, reduceCtorEq, decide_true, decide_false,
      Bool.true_and, Bool.false_and, Bool.false_eq_true, if_false]
    push_cast
    rw [max_zero_eq_ite]
    simp only [zero_add, add_zero, ← sub_sub]
    rfl

/-- The classes of an input that does not overlap fit, also beside a class that
is priced apart. -/
theorem fits_of_disjoint (disjoint : usage.Disjoint) (once : usage.CountsImagesOnce used) :
    usage.Fits used := by
  have nonneg := disjoint.toNonneg
  obtain ⟨images, inCached, inImages⟩ := cachedImages_le nonneg
  obtain ⟨writes5m, writes1h⟩ := cacheWrites_nonneg nonneg
  have input := disjoint.input
  have output := disjoint.output
  have audio := nonneg.audio
  have imageOutput := nonneg.imageOutput
  have audioOutput := nonneg.audioOutput
  constructor
  · simp only [taken, base, List.map_cons, List.map_nil,
      List.sum_cons, List.sum_nil, reduceCtorEq, decide_true, decide_false,
      Bool.true_and, Bool.false_and, Bool.false_eq_true, if_false, count]
    rcases once with split | none | apart
    · split_ifs <;> omega
    · split_ifs <;> omega
    · by_cases cached : used .cr = true
      · have noImages : used .img = false :=
          Bool.eq_false_iff.mpr fun priced => apart ⟨cached, priced⟩
        simp only [noImages, Bool.false_eq_true, if_false]
        split_ifs <;> omega
      · split_ifs <;> omega
  · simp only [taken, base, List.map_cons, List.map_nil,
      List.sum_cons, List.sum_nil, reduceCtorEq, decide_true, decide_false,
      Bool.true_and, Bool.false_and, Bool.false_eq_true, if_false, count]
    split_ifs <;> omega

end OpenAI

/-- The variables of an expression that names one class more. -/
def andClass (class_ : PriceVar) (used : PriceVar → Bool) (name : PriceVar) :
    Bool :=
  decide (class_ = name) || used name

section OneMore

variable {usage : Usage} {used : PriceVar → Bool} {class_ : PriceVar}

theorem count_andClass (other : class_ ≠ .imgCR) :
    usage.count (andClass class_ used) = usage.count used := by
  funext name
  have same : andClass class_ used .imgCR = used .imgCR := by
    unfold andClass
    rw [decide_eq_false other, Bool.false_or]
  simp only [count, same]

theorem sum_map_of_one {names : List PriceVar} {one other : PriceVar → Int} {extra : Int}
    (distinct : names.Nodup) (listed : class_ ∈ names) (changed : one class_ = other class_ + extra)
    (same : ∀ name, name ≠ class_ → one name = other name) :
    (names.map one).sum = (names.map other).sum + extra := by
  induction names with
  | nil => cases listed
  | cons head rest ih =>
    obtain ⟨fresh, distinctRest⟩ := List.nodup_cons.mp distinct
    simp only [List.map_cons, List.sum_cons]
    by_cases isHead : head = class_
    · subst isHead
      have rest : rest.map one = rest.map other := by
        apply List.map_congr_left
        intro name member
        exact same name fun equal => fresh (equal ▸ member)
      rw [changed, rest]
      ring
    · have inRest : class_ ∈ rest := (List.mem_cons.mp listed).resolve_left (Ne.symm isHead)
      rw [same head isHead, ih distinctRest inRest]
      ring

theorem taken_andClass (isClass : class_.isClass = true) (other : class_ ≠ .imgCR)
    (unused : used class_ = false) (base : PriceVar) :
    usage.taken (andClass class_ used) base = usage.taken used base +
        if class_.base = base then usage.count used class_ else 0 := by
  unfold taken
  rw [count_andClass other]
  apply @sum_map_of_one class_
  · decide
  · cases class_ with
    | p | c | len => cases isClass
    | cr | cc | cc1h | img | imgCR | ai | imgO | ao => decide
  · simp [andClass, unused]
  · intro name different
    have same : andClass class_ used name = used name := by
      unfold andClass
      rw [decide_eq_false (Ne.symm different), Bool.false_or]
    rw [same]

theorem rest_sub {total taken extra : Int} (positive : 0 ≤ extra) (fits : taken + extra ≤ total) :
    (max (total - (taken + extra)) 0 : Int) = ((max (total - taken) 0 : Int) - extra : Rat) := by
  have rest : max (total - (taken + extra)) 0 = max (total - taken) 0 - extra := by omega
  rw [rest, Int.cast_sub]

theorem params_andClass (nonneg : usage.Nonneg) (isClass : class_.isClass = true)
    (other : class_ ≠ .imgCR) (unused : used class_ = false)
    (fits : usage.Fits (andClass class_ used)) (name : PriceVar) :
    (buildTieredTokenParams usage false (andClass class_ used)).get name =
      (buildTieredTokenParams usage false used).get name -
        (if class_.base = name then usage.count used class_ else 0 : Int) := by
  have positive : ∀ base : PriceVar,
      0 ≤ if class_.base = base then usage.count used class_ else 0 := by
    intro base
    split
    · exact count_nonneg nonneg class_
    · exact le_rfl
  obtain ⟨input, output⟩ := fits
  rw [taken_andClass isClass other unused] at input output
  by_cases named : name.isClass = true
  · have notBase : class_.base ≠ name := by
      rintro rfl
      cases class_ <;> cases named
    rw [params_openAI named, params_openAI named, count_andClass other,
      if_neg notBase, Int.cast_zero, sub_zero]
  · cases name with
    | len =>
      have notBase : class_.base ≠ .len := by cases class_ <;> decide
      rw [if_neg notBase, Int.cast_zero, sub_zero]
      rfl
    | p =>
      simp only [TokenParams.get, base_openAI.1, taken_andClass isClass other unused]
      exact rest_sub (positive .p) input
    | c =>
      simp only [TokenParams.get, base_openAI.2, taken_andClass isClass other unused]
      exact rest_sub (positive .c) output
    | cr | cc | cc1h | img | imgCR | ai | imgO | ao => exact absurd rfl named

theorem taken_splitImages (unused : used .imgCR = false) : usage.taken (andClass .imgCR used) .p =
        usage.taken used .p + usage.cachedImages - (if used .cr then usage.cachedImages else 0) -
          (if used .img then usage.cachedImages else 0) ∧
      usage.taken (andClass .imgCR used) .c = usage.taken used .c := by
  constructor
  · simp only [taken, base, andClass, List.map_cons, List.map_nil, List.sum_cons,
      List.sum_nil, reduceCtorEq, decide_true, decide_false, Bool.true_and, Bool.false_and,
      Bool.true_or, Bool.false_or, Bool.false_eq_true, if_false, if_true, count, unused]
    cases used .cr <;> cases used .img <;>
      simp only [Bool.false_eq_true, if_false, if_true] <;> ring
  · simp only [taken, base, andClass, List.map_cons, List.map_nil, List.sum_cons,
      List.sum_nil, reduceCtorEq, decide_true, decide_false, Bool.true_and, Bool.false_and,
      Bool.false_or, Bool.false_eq_true, if_false, count]

theorem rest_of_fits {total taken : Int} (fits : taken ≤ total) :
    ((max (total - taken) 0 : Int) : Rat) = total - taken := by
  rw [max_eq_left (by omega), Int.cast_sub]

end OneMore

/-! ## Bills -/

def tieredCost (usage : Usage) (isClaudeUsageSemantic : Bool) (expression : PriceExpr) :
    Rat :=
  expression.eval (buildTieredTokenParams usage isClaudeUsageSemantic expression.usedVars)

/-- The input length on which the conditions of an expression decide. -/
def tieredLen (usage : Usage) (isClaudeUsageSemantic : Bool) (expression : PriceExpr) :
    Rat :=
  (buildTieredTokenParams usage isClaudeUsageSemantic expression.usedVars).len

/-- The whole input, which an Anthropic usage reports in parts. -/
def Usage.inputLength (usage : Usage) (isClaudeUsageSemantic : Bool) : Int :=
  if isClaudeUsageSemantic then
    usage.promptTokens + usage.promptTokensDetails.cachedTokens +
      usage.cacheWrites.1 + usage.cacheWrites.2
  else usage.promptTokens

/-- What an input token costs less in a class than in `p`, nothing for a class
without a price. -/
def priceDrop (lanes : List PriceLane) (class_ : PriceVar) : Rat :=
  if lanes.any fun lane => decide (lane.variable_ = class_) then
    lanesPrice lanes .p - lanesPrice lanes class_
  else 0

section Bills

variable {usage : Usage} {lanes longer : List PriceLane} {class_ : PriceVar} (tier : String)

section

variable (extended : PricesAsBase lanes longer class_)
include extended

theorem usedVars_longer :
    (linearTier tier longer).usedVars = andClass class_ (linearTier tier lanes).usedVars := by
  funext name
  rw [usedVars_linearTier, extended.uses, andClass, usedVars_linearTier]

theorem unused_usedVars :
    (linearTier tier lanes).usedVars class_ = false := by
  rw [usedVars_linearTier, List.any_eq_false]
  intro lane member
  simpa using extended.unused lane member

theorem tieredCost_openAI (other : class_ ≠ .imgCR) (disjoint : usage.Disjoint)
    (once : usage.CountsImagesOnce (linearTier tier longer).usedVars ∨
      usage.Fits (linearTier tier longer).usedVars) :
    tieredCost usage false (linearTier tier longer) =
      tieredCost usage false (linearTier tier lanes) := by
  have fits : usage.Fits (linearTier tier longer).usedVars :=
    once.elim (fits_of_disjoint disjoint) id
  have unused := unused_usedVars tier extended
  unfold tieredCost
  rw [usedVars_longer tier extended] at fits ⊢
  have moved := params_andClass disjoint.toNonneg extended.isClass other unused fits
  have own := @params_openAI usage (linearTier tier lanes).usedVars class_ extended.isClass
  have apart : class_.base ≠ class_ := by
    have isClass := extended.isClass
    cases class_ <;> first | decide | cases isClass
  simp only [Int.cast_ite, Int.cast_zero] at moved
  rw [eval_linearTier, eval_linearTier, extended.cost,
    lanesCost_of_change moved, moved, own, if_neg apart]
  ring

end

theorem tieredCost_cachedImages (extended : PricesAsBase lanes longer .imgCR)
    (disjoint : usage.Disjoint) (fits : usage.Fits (linearTier tier lanes).usedVars) :
    tieredCost usage false (linearTier tier longer) =
        tieredCost usage false (linearTier tier lanes) ↔
      usage.cachedImages = 0 ∨ priceDrop lanes .cr + priceDrop lanes .img = 0 := by
  have unused := unused_usedVars tier extended
  have fitsLonger : usage.Fits (linearTier tier longer).usedVars := by
    refine fits_of_disjoint disjoint (Or.inl ?_)
    rw [usedVars_longer tier extended, andClass, decide_eq_true rfl, Bool.true_or]
  have drops : ∀ class_, priceDrop lanes class_ =
      if (linearTier tier lanes).usedVars class_ then lanesPrice lanes .p - lanesPrice lanes class_
      else 0 := by
    intro class_
    rw [usedVars_linearTier, priceDrop]
  have noPrice : ∀ class_, (linearTier tier lanes).usedVars class_ = false →
      lanesPrice lanes class_ = 0 := by
    intro class_ notUsed
    rw [usedVars_linearTier, List.any_eq_false] at notUsed
    exact lanesPrice_of_unused fun lane member => by
      simpa using notUsed lane member
  unfold tieredCost
  rw [eval_linearTier, eval_linearTier, extended.cost, lanesCost_eq, lanesCost_eq, drops, drops]
  rw [usedVars_longer tier extended] at fitsLonger ⊢
  generalize (linearTier tier lanes).usedVars = used at *
  obtain ⟨splitInput, splitOutput⟩ := @taken_splitImages usage used unused
  have later : ∀ class_, class_.isClass = true →
      (buildTieredTokenParams usage false (andClass .imgCR used)).get class_ =
        (buildTieredTokenParams usage false used).get class_ -
          ((usage.count used class_ - usage.count (andClass .imgCR used) class_ : Int) : Rat) := by
    intro class_ isClass
    rw [params_openAI isClass, params_openAI isClass, Int.cast_sub]
    ring
  have cr := later .cr rfl
  have cc := later .cc rfl
  have cc1h := later .cc1h rfl
  have img := later .img rfl
  have imgO := later .imgO rfl
  have ai := later .ai rfl
  have ao := later .ao rfl
  have p := @base_openAI usage (andClass .imgCR used)
  have before := @base_openAI usage used
  rw [rest_of_fits fitsLonger.1, rest_of_fits fitsLonger.2, splitInput, splitOutput] at p
  rw [rest_of_fits fits.1, rest_of_fits fits.2] at before
  simp only [TokenParams.get, count, andClass, unused, decide_true,
    Bool.true_or, if_true, Bool.false_eq_true, if_false, sub_self,
    Int.cast_zero, sub_zero, sub_sub_cancel] at cr cc cc1h img imgO ai ao
  have len : (buildTieredTokenParams usage false (andClass .imgCR used)).len =
        (buildTieredTokenParams usage false used).len :=
    rfl
  have none : lanesPrice lanes .imgCR = 0 := noPrice .imgCR unused
  have split :
      (buildTieredTokenParams usage false (andClass .imgCR used)).imgCR = usage.cachedImages := by
    have own := @params_openAI usage (andClass .imgCR used) .imgCR rfl
    simpa [TokenParams.get, count, andClass] using own
  rw [TokenParams.get, p.1, p.2, len, cr, cc, cc1h, img, split, imgO, ai, ao,
    before.1, before.2, none]
  simp only [base]
  rw [← @Int.cast_eq_zero Rat, ← mul_eq_zero, ← sub_eq_zero]
  apply iff_of_eq
  congr 1
  push_cast
  have cached := noPrice .cr
  have image := noPrice .img
  cases cachedUsed : used .cr <;> cases imageUsed : used .img
  · rw [cached cachedUsed, image imageUsed]
    simp only [Bool.false_eq_true, if_false]
    ring
  · rw [cached cachedUsed]
    simp only [Bool.false_eq_true, if_false, if_true]
    ring
  · rw [image imageUsed]
    simp only [Bool.false_eq_true, if_false, if_true]
    ring
  · simp only [if_true]
    ring

theorem tieredCost_anthropic (extended : PricesAsBase lanes longer .cr) (nonneg : usage.Nonneg) :
    tieredCost usage true (linearTier tier longer) =
      tieredCost usage true (linearTier tier lanes) := by
  have unused := unused_usedVars tier extended
  have prompt : (0 : Rat) ≤ usage.promptTokens := by exact_mod_cast nonneg.prompt
  have cached : (0 : Rat) ≤ usage.promptTokensDetails.cachedTokens := by
    exact_mod_cast nonneg.cached
  have moved : ∀ name,
      (buildTieredTokenParams usage true (linearTier tier longer).usedVars).get name =
        (buildTieredTokenParams usage true (linearTier tier lanes).usedVars).get name -
          if p = name then (usage.promptTokensDetails.cachedTokens : Rat)
          else 0 := by
    intro name
    rw [usedVars_longer tier extended]
    generalize (linearTier tier lanes).usedVars = used at *
    cases name with
    | p =>
      simp only [buildTieredTokenParams, TokenParams.get, andClass, unused,
        decide_true, Bool.true_or, Bool.not_true, Bool.and_false, if_true,
        Bool.false_eq_true, if_false, sub_zero]
      rw [if_neg (not_lt.mpr prompt), if_neg (not_lt.mpr (by linarith))]
      ring
    | c | len | cr | cc | cc1h | img | imgCR | imgO | ai | ao =>
      simp [buildTieredTokenParams, TokenParams.get]
  have own : (buildTieredTokenParams usage true (linearTier tier lanes).usedVars).get .cr =
        usage.promptTokensDetails.cachedTokens := by
    simp [buildTieredTokenParams, TokenParams.get]
  unfold tieredCost
  rw [eval_linearTier, eval_linearTier, extended.cost, lanesCost_of_change moved, moved, own]
  simp only [base, reduceCtorEq, if_false]
  ring

theorem tieredLen_eq (isClaudeUsageSemantic : Bool) (expression : PriceExpr) :
    tieredLen usage isClaudeUsageSemantic expression =
      (usage.inputLength isClaudeUsageSemantic : Int) := by
  cases isClaudeUsageSemantic with
  | false => rfl
  | true =>
    unfold tieredLen
    simp only [buildTieredTokenParams, inputLength, cacheWrites]
    split_ifs <;> simp_all

end Bills

def cachedImageUsage : Usage where
  promptTokens := 1000
  completionTokens := 100
  promptTokensDetails :=
    { cachedTokens := 300
      cachedTokensDetails :=
        some { textTokens := none, imageTokens := some 200, audioTokens := none }
      imageTokens := 600 }

def imagesOnlyUsage : Usage where
  promptTokens := 600
  completionTokens := 100
  promptTokensDetails :=
    { cachedTokens := 300
      cachedTokensDetails :=
        some { textTokens := none, imageTokens := some 300, audioTokens := none }
      imageTokens := 600 }

def anthropicUsage : Usage where
  promptTokens := 100
  completionTokens := 10
  usageSemantic := "anthropic"
  promptTokensDetails := { cachedTokens := 200 }
  claudeCacheCreation5mTokens := 300

theorem cachedImageUsage_disjoint : cachedImageUsage.Disjoint := by
  constructor
  · constructor <;> decide
  · decide
  · decide

theorem imagesOnlyUsage_disjoint : imagesOnlyUsage.Disjoint := by
  constructor
  · constructor <;> decide
  · decide
  · decide

theorem anthropicUsage_nonneg : anthropicUsage.Nonneg := by
  constructor <;> decide

end NewApi.Pricing
