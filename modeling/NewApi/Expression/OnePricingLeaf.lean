import NewApi.Expression.GoPatch

/-!
# One pricing leaf in a run

In a tree the check of fixed prices accepts, every run goes down to one pricing
leaf: a part without a pricing marker neither prices anything nor yields a
function that does.  The patched tree has the same shape, so that this holds of
the program as well.
-/

namespace NewApi.Expression

open GoEnvironment TraceResult GoNode

variable {φ : Type}

namespace GoEvent

def isTierCall : GoEvent φ → Bool
  | .tier _ _ => true
  | _ => false

def isFixedCall : GoEvent φ → Bool
  | .fixed _ => true
  | _ => false

def PricesNothing (events : List (GoEvent φ)) : Prop :=
  ∀ event ∈ events, event.isTierCall = false ∧ event.isFixedCall = false

theorem pricesNothing_nil : PricesNothing ([] : List (GoEvent φ)) := by
  simp [PricesNothing]

variable {events : List (GoEvent φ)}

theorem PricesNothing.append {others : List (GoEvent φ)}
    (first : PricesNothing events) (second : PricesNothing others) :
    PricesNothing (events ++ others) := by
  intro event member
  rcases List.mem_append.mp member with inFirst | inSecond
  · exact first event inFirst
  · exact second event inSecond

theorem PricesNothing.countP_tier
    (nothing : PricesNothing events) : events.countP isTierCall = 0 := by
  rw [List.countP_eq_zero]
  intro event member
  simp [(nothing event member).1]

theorem PricesNothing.countP_fixed
    (nothing : PricesNothing events) : events.countP isFixedCall = 0 := by
  rw [List.countP_eq_zero]
  intro event member
  simp [(nothing event member).2]

end GoEvent

open GoEvent

theorem GoNode.containsPricingMarker_eq_false {node : GoNode φ} :
    node.containsPricingMarker = false ↔
      ∀ value ∈ node.identifiers, isPricingMarker value = false := by
  simp [containsPricingMarker]

section

variable [GoFloat φ]

theorem testedEvents_pricesNothing
    (first : Nat) (ternary : Bool) (cond exp1 exp2 : GoNode φ) (holds : Bool) :
    PricesNothing (testedEvents first ternary cond exp1 exp2 holds) :=
  testedEvents_harmless (fun _ _ => ⟨rfl, rfl⟩) _ _ _ _ _ _

theorem GoEnvironment.applyFunction_pricesNothing
    {env : GoEnvironment φ} {name : String} {arguments : List (GoValue φ)}
    {result : GoData φ} {events : List (GoEvent φ)}
    (ran : env.applyFunction name arguments = some (result, events))
    (unmarked : isPricingMarker name = false) : PricesNothing events := by
  simp only [isPricingMarker, Bool.or_eq_false_iff, decide_eq_false_iff_not] at unmarked
  simp only [applyFunction, if_neg unmarked.1, if_neg unmarked.2] at ran
  split_ifs at ran
  · split at ran
    · obtain ⟨-, rfl⟩ := ran
      simp [PricesNothing, isTierCall, isFixedCall]
    · cases ran
  · split at ran
    · obtain ⟨-, rfl⟩ := ran
      simp [PricesNothing, isTierCall, isFixedCall]
    · cases ran
  · simp only [Option.map_eq_some_iff, Prod.mk.injEq] at ran
    obtain ⟨data, -, -, rfl⟩ := ran
    exact pricesNothing_nil

namespace GoNode

/-- A tree in which the marker search finds nothing prices nothing, whatever
calls, conditions and rules it holds. -/
theorem unmarked_pricesNothing {env : GoEnvironment φ} {node : GoNode φ}
    (unmarked : node.containsPricingMarker = false)
    {first : Nat} {value : GoValue φ} {events : List (GoEvent φ)}
    (ran : node.eval env first = some (value, events)) :
    PricesNothing events :=
  (eval_avoids
    (fun _ _ _ _ plain called => applyFunction_pricesNothing called plain)
    (fun _ _ => ⟨rfl, rfl⟩) node
    (containsPricingMarker_eq_false.mp unmarked) first value events ran).1

end GoNode

/-- A leaf `tier(name, price)` a run goes down to, the number its rules start
at, and the factors on the way, the innermost one first. -/
structure SelectedLeaf (φ : Type) where
  name : GoNode φ
  price : GoNode φ
  first : Nat
  factors : List φ

namespace SelectedLeaf

def node (leaf : SelectedLeaf φ) : GoNode φ := .call (.identifier "tier") [leaf.name, leaf.price]

def isFixed (leaf : SelectedLeaf φ) : Bool := leaf.price.fixedArgument.isSome

def times (leaf : SelectedLeaf φ) (factor : φ) : SelectedLeaf φ :=
  { leaf with factors := leaf.factors ++ [factor] }

end SelectedLeaf

namespace GoNode

def factor (env : GoEnvironment φ) (first : Nat) (node : GoNode φ) : Option φ :=
  (node.eval env first).bind fun result => asFloat64 result.1

/-- The leaf a run goes down to: through the branch its condition takes, and
beside the factors, which have no pricing marker. -/
def selected (env : GoEnvironment φ) :
    (first : Nat) → GoNode φ → Option (SelectedLeaf φ)
  | first, .conditional _ cond exp1 exp2 =>
    (cond.eval env first).bind fun tested =>
      match tested.1 with
      | .data (.boolean true) => exp1.selected env (first + cond.ruleCount)
      | .data (.boolean false) => exp2.selected env (first + cond.ruleCount + exp1.ruleCount)
      | _ => none
  | first, .binary _ left right =>
    if right.containsPricingMarker then
      (right.selected env (first + left.ruleCount)).bind fun leaf =>
        (left.factor env first).map leaf.times
    else
      (left.selected env first).bind fun leaf =>
        (right.factor env (first + left.ruleCount)).map leaf.times
  | first, .call _ [name, price] => some ⟨name, price, first, []⟩
  | _, _ => none

structure PricedRun (env : GoEnvironment φ) (first : Nat) (node : GoNode φ)
    (value : GoValue φ) (events : List (GoEvent φ)) (leaf : SelectedLeaf φ) : Prop where
  selected : node.selected env first = some leaf
  tierOnce : events.countP isTierCall = 1
  fixedCalls : events.countP isFixedCall = if leaf.isFixed then 1 else 0
  product : ∃ price leafEvents,
    leaf.node.eval env leaf.first =
        some (.data (.float price), leafEvents) ∧
      value = .data (.float (leaf.factors.foldl GoFloat.mul price))

/-! ## Request multipliers -/

variable {env : GoEnvironment φ} {node : GoNode φ} {first : Nat}
  {value : GoValue φ} {events : List (GoEvent φ)}

theorem eval_of_number {number : φ} (literal : node.requestRuleNumber = some number)
    (ran : node.eval env first = some (value, events)) :
    asFloat64 value = some number := by
  cases node with
  | integer n | float x =>
    obtain ⟨rfl, rfl⟩ := ran
    exact literal
  | _ => cases literal

/-- A request multiplier is the number of images or a conditional between two
number literals. -/
theorem isRequestPriceMultiplier_cases (multiplies : node.isRequestPriceMultiplier = true) :
    node = .identifier "image_count" ∨
      ∃ ternary cond exp1 exp2 multiplier fallback,
        node = .conditional ternary cond exp1 exp2 ∧ cond.containsPricingMarker = false ∧
          exp1.requestRuleNumber = some multiplier ∧
          exp2.requestRuleNumber = some fallback := by
  cases node with
  | identifier value =>
    left
    simpa [isRequestPriceMultiplier] using multiplies
  | conditional ternary cond exp1 exp2 =>
    right
    simp only [isRequestPriceMultiplier] at multiplies
    split_ifs at multiplies with opaqueCond
    simp only [Bool.or_eq_true, not_or, Bool.not_eq_true] at opaqueCond
    split at multiplies
    · next multiplier fallback hexp1 hexp2 =>
        exact ⟨ternary, cond, exp1, exp2, multiplier, fallback, rfl, opaqueCond.2, hexp1, hexp2⟩
    · cases multiplies
  | _ => cases multiplies

/-- A part that prices nothing and evaluates to numbers only. -/
structure IsFactor (node : GoNode φ) : Prop where
  unmarked : node.containsPricingMarker = false
  number : ∀ {env first value events},
    node.eval env first = some (value, events) → ∃ factor, asFloat64 value = some factor

theorem isFactor_imageCount : (identifier "image_count" : GoNode φ).IsFactor where
  unmarked := by simp [containsPricingMarker, identifiers, isPricingMarker]
  number ran := by
    simp only [eval, Option.map_eq_some_iff, Prod.mk.injEq] at ran
    obtain ⟨found, hfound, rfl, -⟩ := ran
    cases hfound
    exact ⟨_, rfl⟩

variable {exp1 exp2 : GoNode φ}

variable {multiplier : φ}

theorem isFactor_conditional {ternary : Bool} {cond : GoNode φ} {fallback : φ}
    (unmarked : cond.containsPricingMarker = false)
    (hexp1 : exp1.requestRuleNumber = some multiplier)
    (hexp2 : exp2.requestRuleNumber = some fallback) :
    (conditional ternary cond exp1 exp2).IsFactor where
  unmarked := by
    rw [containsPricingMarker_eq_false] at unmarked ⊢
    simpa [identifiers, identifiers_of_number hexp1, identifiers_of_number hexp2] using unmarked
  number ran := by
    obtain ⟨holds, condEvents, branchEvents, -, hbranch, -⟩ := eval_conditional ran
    cases holds with
    | true => exact ⟨multiplier, eval_of_number hexp1 hbranch⟩
    | false => exact ⟨fallback, eval_of_number hexp2 hbranch⟩

theorem traceCall_number {values : List (GoValue φ)} {result : GoData φ}
    (ran : env.applyFunction (traceCall exp1 exp2 multiplier).1 values = some (result, events)) :
    ∃ factor, asFloat64 (.data result) = some factor := by
  rcases traceCall_cases exp1 exp2 multiplier with ⟨value, other, -, -, traced⟩ | traced
  · rw [traced] at ran
    simp only [applyFunction, if_neg (show ¬"_trace_int" = "tier" by decide),
      if_neg (show ¬"_trace_int" = "fixed" by decide),
      if_neg (show ¬"_trace_int" = "_trace" by decide), if_pos] at ran
    split at ran
    · obtain ⟨rfl, -⟩ := ran
      exact ⟨_, rfl⟩
    · cases ran
  · rw [traced] at ran
    simp only [applyFunction, if_neg (show ¬"_trace" = "tier" by decide),
      if_neg (show ¬"_trace" = "fixed" by decide), if_pos] at ran
    split at ran
    · obtain ⟨rfl, -⟩ := ran
      exact ⟨_, rfl⟩
    · cases ran

theorem isFactor_visitConditional {ternary : Bool} {cond : GoNode φ} {fallback : φ}
    (unmarked : cond.containsPricingMarker = false)
    (hexp1 : exp1.requestRuleNumber = some multiplier)
    (hexp2 : exp2.requestRuleNumber = some fallback) (rules : List (RequestRuleTrace φ)) :
    (visitConditional ternary cond exp1 exp2 rules).1.IsFactor := by
  unfold visitConditional
  split
  · next found rule =>
      refine ⟨?_, ?_⟩
      · rcases traceCall_cases exp1 exp2 found with ⟨value, other, -, -, traced⟩ | traced
        · rw [containsPricingMarker_eq_false] at unmarked ⊢
          simpa [traced, identifiers, identifiersOf, isPricingMarker] using unmarked
        · rw [containsPricingMarker_eq_false] at unmarked ⊢
          simpa [traced, identifiers, identifiersOf, isPricingMarker] using unmarked
      · intro env first value events ran
        obtain ⟨values, valueEvents, function, calleeEvents, result,
          resultEvents, -, hcallee, hresult, rfl, -⟩ := eval_call ran
        simp only [eval, Option.map_eq_some_iff, Prod.mk.injEq] at hcallee
        obtain ⟨callee, hlookup, rfl, -⟩ := hcallee
        have traces : callee = .function (traceCall exp1 exp2 found).1 := by
          rcases traceCall_cases exp1 exp2 found with ⟨number, other, -, -, traced⟩ | traced
          · rw [traced] at hlookup ⊢
            cases hlookup
            rfl
          · rw [traced] at hlookup ⊢
            cases hlookup
            rfl
        subst traces
        exact traceCall_number hresult
  · exact isFactor_conditional unmarked hexp1 hexp2

theorem isFactor_of_multiplier (multiplies : node.isRequestPriceMultiplier = true) :
    node.IsFactor ∧ ∀ rules, (node.patch rules).1.IsFactor := by
  rcases isRequestPriceMultiplier_cases multiplies with
    rfl | ⟨ternary, cond, exp1, exp2, multiplier, fallback, rfl, hcond, hexp1, hexp2⟩
  · exact ⟨isFactor_imageCount, fun rules => isFactor_imageCount⟩
  · refine ⟨isFactor_conditional hcond hexp1 hexp2, fun rules => ?_⟩
    simp only [patch, patch_of_number _ hexp1, patch_of_number _ hexp2]
    refine isFactor_visitConditional ?_ hexp1 hexp2 _
    rw [containsPricingMarker_patch]
    exact hcond

theorem IsFactor.runs (factor : node.IsFactor) (ran : node.eval env first = some (value, events)) :
    PricesNothing events ∧
      ∃ number, node.factor env first = some number ∧ asFloat64 value = some number := by
  obtain ⟨number, hnumber⟩ := factor.number ran
  exact ⟨unmarked_pricesNothing factor.unmarked ran, number,
    by simp [GoNode.factor, ran, hnumber], hnumber⟩

theorem strict_mul_right (env : GoEnvironment φ) (x : φ) {factor : φ}
    (number : asFloat64 value = some factor) :
    env.strict "*" (.data (.float x)) value = some (.float (GoFloat.mul x factor)) := by
  cases value with
  | function name => cases number
  | data data =>
    cases data with
    | float y | integer y =>
      cases number
      simp [strict, arithmeticOperators, onFloats]
    | _ => cases number

theorem strict_mul_left (env : GoEnvironment φ) (x : φ) {factor : φ}
    (number : asFloat64 value = some factor) :
    env.strict "*" value (.data (.float x)) = some (.float (GoFloat.mul x factor)) := by
  cases value with
  | function name => cases number
  | data data =>
    cases data with
    | float y | integer y =>
      cases number
      simp [strict, arithmeticOperators, onFloats, GoFloat.mul_comm x]
    | _ => cases number

variable {price : GoNode φ}

omit [GoFloat φ] in
theorem fixedArgument_eq_some {argument : GoNode φ} (fixed : price.fixedArgument = some argument) :
    price = .call (.identifier "fixed") [argument] := by
  unfold fixedArgument at fixed
  split at fixed
  · next function amount =>
      split_ifs at fixed with named
      cases fixed
      rw [named]
  · cases fixed

/-- A price calls no tier, and at most its own fixed price. -/
theorem price_runs (valid : price.validatePrice = true)
    (ran : price.eval env first = some (value, events)) :
    events.countP isTierCall = 0 ∧
      events.countP isFixedCall = if price.fixedArgument.isSome then 1 else 0 := by
  cases hfixed : price.fixedArgument with
  | none =>
    simp only [validatePrice, hfixed, Bool.not_eq_true'] at valid
    have nothing := (unmarked_pricesNothing valid ran)
    exact ⟨nothing.countP_tier, nothing.countP_fixed⟩
  | some argument =>
    obtain rfl := fixedArgument_eq_some hfixed
    cases hnumber : argument.requestRuleNumber with
    | none => simp [validatePrice, hfixed, hnumber] at valid
    | some amount =>
      obtain ⟨values, valueEvents, function, calleeEvents, result,
        resultEvents, hvalues, hcallee, hresult, -, rfl⟩ := eval_call ran
      obtain ⟨x, xs, ys, yEvents, hx, hys, rfl, rfl⟩ := evalOf_cons hvalues
      have unmarked : argument.containsPricingMarker = false := by
        simp [containsPricingMarker, identifiers_of_number hnumber]
      have quietArgument := (unmarked_pricesNothing unmarked hx)
      cases hys
      cases hcallee
      simp only [callValue, applyFunction, if_neg (show ¬"fixed" = "tier" by decide), if_pos,
        Option.map_eq_some_iff, Prod.mk.injEq] at hresult
      obtain ⟨amount, -, -, rfl⟩ := hresult
      simp [quietArgument.countP_tier, quietArgument.countP_fixed,
        List.countP_append, isTierCall, isFixedCall]

/-- One leaf runs one pricing call. -/
theorem leaf_runs {name : GoNode φ} (unmarked : name.containsPricingMarker = false)
    (valid : price.validatePrice = true)
    (ran : (call (.identifier "tier") [name, price]).eval env first = some (value, events)) :
    PricedRun env first (.call (.identifier "tier") [name, price]) value events
      ⟨name, price, first, []⟩ := by
  have result := ran
  obtain ⟨values, valueEvents, function, calleeEvents, data, resultEvents,
    hvalues, hcallee, hdata, rfl, rfl⟩ := eval_call ran
  obtain ⟨label, labelEvents, rest, restEvents, hname, hrest, rfl, rfl⟩ := evalOf_cons hvalues
  obtain ⟨amount, amountEvents, final, finalEvents, hprice, hfinal, rfl, rfl⟩ := evalOf_cons hrest
  cases hfinal
  cases hcallee
  have quietName := (unmarked_pricesNothing unmarked hname)
  obtain ⟨noTier, fixedCalls⟩ := price_runs valid hprice
  simp only [callValue, applyFunction, if_pos,
    Option.bind_eq_some_iff, Option.map_eq_some_iff, Prod.mk.injEq] at hdata
  obtain ⟨text, -, cost, -, rfl, rfl⟩ := hdata
  exact {
    selected := rfl
    tierOnce := by
      simp [List.countP_append, quietName.countP_tier, noTier, isTierCall]
    fixedCalls := by
      change _ = if price.fixedArgument.isSome then 1 else 0
      rw [← fixedCalls]
      simp [List.countP_append, quietName.countP_fixed, isFixedCall]
    product := ⟨cost, _, result, rfl⟩ }

/-! ## Whole trees -/

/-- The shape of a tree with one pricing leaf on each branch. -/
inductive PricingShape : GoNode φ → Prop where
  | conditional {ternary : Bool} {cond exp1 exp2 : GoNode φ}
      (unmarked : cond.containsPricingMarker = false)
      (shape1 : PricingShape exp1) (shape2 : PricingShape exp2) :
      PricingShape (.conditional ternary cond exp1 exp2)
  | factorRight {left right : GoNode φ}
      (factor : right.IsFactor) (shape : PricingShape left) :
      PricingShape (.binary "*" left right)
  | factorLeft {left right : GoNode φ}
      (factor : left.IsFactor) (shape : PricingShape right) :
      PricingShape (.binary "*" left right)
  | leaf {name price : GoNode φ}
      (unmarked : name.containsPricingMarker = false)
      (valid : price.validatePrice = true) :
      PricingShape (.call (.identifier "tier") [name, price])

theorem PricingShape.marked (shape : PricingShape node) : node.containsPricingMarker = true := by
  induction shape with
  | conditional unmarked shape1 shape2 ih1 ih2 =>
    simp only [containsPricingMarker, identifiers, List.any_append, Bool.or_eq_true] at ih2 ⊢
    exact .inr ih2
  | factorRight factor shape ih =>
    simp only [containsPricingMarker, identifiers, List.any_append, Bool.or_eq_true] at ih ⊢
    exact .inl ih
  | factorLeft factor shape ih =>
    simp only [containsPricingMarker, identifiers, List.any_append, Bool.or_eq_true] at ih ⊢
    exact .inr ih
  | leaf unmarked valid => simp [containsPricingMarker, identifiers, isPricingMarker]

theorem shape_of_valid (valid : node.validateFixedPricingTree = true) : PricingShape node := by
  induction node with
  | conditional ternary cond exp1 exp2 ihCond ihExp1 ihExp2 =>
    simp only [validateFixedPricingTree, Bool.and_eq_true, Bool.not_eq_true'] at valid
    exact .conditional valid.1.1 (ihExp1 valid.1.2) (ihExp2 valid.2)
  | binary operator left right ihLeft ihRight =>
    simp only [validateFixedPricingTree] at valid
    split_ifs at valid with product onRight onLeft
    · subst product
      exact .factorRight (isFactor_of_multiplier onRight).1 (ihLeft valid)
    · subst product
      exact .factorLeft (isFactor_of_multiplier onLeft).1 (ihRight valid)
  | call callee arguments ihCallee ihArguments =>
    unfold validateFixedPricingTree at valid
    split at valid
    · next function name price =>
        simp only [Bool.and_eq_true, decide_eq_true_eq, Bool.not_eq_true'] at valid
        obtain ⟨⟨rfl, unmarked⟩, validPrice⟩ := valid
        exact .leaf unmarked validPrice
    · cases valid
  | _ => cases valid

theorem validatePrice_patch (valid : price.validatePrice = true)
    (rules : List (RequestRuleTrace φ)) :
    (price.patch rules).1.validatePrice = true := by
  cases hfixed : price.fixedArgument with
  | none =>
    simp only [validatePrice, hfixed, Bool.not_eq_true'] at valid
    have unmarked := valid
    rw [← containsPricingMarker_patch price rules] at unmarked
    have plain : (price.patch rules).1.fixedArgument = none := by
      cases hpatched : (price.patch rules).1.fixedArgument with
      | none => rfl
      | some argument =>
        rw [fixedArgument_eq_some hpatched] at unmarked
        simp [containsPricingMarker, identifiers, isPricingMarker] at unmarked
    simp [validatePrice, plain, unmarked]
  | some argument =>
    obtain rfl := fixedArgument_eq_some hfixed
    cases hnumber : argument.requestRuleNumber with
    | none => simp [validatePrice, hfixed, hnumber] at valid
    | some amount => simpa [patch, patchAll, patch_of_number _ hnumber] using valid

theorem shape_patch_of_valid (valid : node.validateFixedPricingTree = true)
    (rules : List (RequestRuleTrace φ)) : PricingShape (node.patch rules).1 := by
  induction node generalizing rules with
  | conditional ternary cond exp1 exp2 ihCond ihExp1 ihExp2 =>
    simp only [validateFixedPricingTree, Bool.and_eq_true, Bool.not_eq_true'] at valid
    obtain ⟨⟨unmarked, validExp1⟩, validExp2⟩ := valid
    have noRule : requestRule ternary cond exp1 exp2 = none := by
      cases hrule : requestRule ternary cond exp1 exp2 with
      | none => rfl
      | some multiplier =>
        obtain ⟨-, -, hexp1, -⟩ := requestRule_eq_some hrule
        have marked := (shape_of_valid validExp1).marked
        simp [containsPricingMarker, identifiers_of_number hexp1] at marked
    simp only [patch, visitConditional, requestRule_patch, noRule]
    refine .conditional ?_ (ihExp1 validExp1 _) (ihExp2 validExp2 _)
    rw [containsPricingMarker_patch]
    exact unmarked
  | binary operator left right ihLeft ihRight =>
    simp only [validateFixedPricingTree] at valid
    split_ifs at valid with product onRight onLeft
    · subst product
      exact .factorRight ((isFactor_of_multiplier onRight).2 _) (ihLeft valid _)
    · subst product
      exact .factorLeft ((isFactor_of_multiplier onLeft).2 _) (ihRight valid _)
  | call callee arguments ihCallee ihArguments =>
    unfold validateFixedPricingTree at valid
    split at valid
    · next function name price =>
        simp only [Bool.and_eq_true, decide_eq_true_eq, Bool.not_eq_true'] at valid
        obtain ⟨⟨rfl, unmarked⟩, validPrice⟩ := valid
        refine .leaf ?_ (validatePrice_patch validPrice _)
        rw [containsPricingMarker_patch]
        exact unmarked
    · cases valid
  | _ => cases valid

theorem PricedRun.times {start : Nat} {whole : GoNode φ} {factorValue : GoValue φ}
    {factorEvents total : List (GoEvent φ)} {leaf : SelectedLeaf φ} {factor : φ}
    (priced : PricedRun env first node value events leaf)
    (nothing : PricesNothing factorEvents) (number : asFloat64 factorValue = some factor)
    (chosen : whole.selected env start = some (leaf.times factor))
    (calls : total.Perm (events ++ factorEvents)) {data : GoData φ}
    (multiplied : env.strict "*" value factorValue = some data) :
    PricedRun env start whole (.data data) total (leaf.times factor) := by
  obtain ⟨price, leafEvents, hleaf, rfl⟩ := priced.product
  rw [strict_mul_right env _ number, Option.some.injEq] at multiplied
  exact {
    selected := chosen
    tierOnce := by
      rw [calls.countP_eq, List.countP_append, priced.tierOnce, nothing.countP_tier]
    fixedCalls := by
      rw [calls.countP_eq, List.countP_append, priced.fixedCalls, nothing.countP_fixed]
      rfl
    product := ⟨price, leafEvents, hleaf, by
      simp [SelectedLeaf.times, ← multiplied]⟩ }

theorem eval_mul {left right : GoNode φ}
    (ran : (binary "*" left right).eval env first = some (value, events)) :
    ∃ x xs y ys data, left.eval env first = some (x, xs) ∧
      right.eval env (first + left.ruleCount) = some (y, ys) ∧
      env.strict "*" x y = some data ∧
      value = .data data ∧ events = xs ++ ys := by
  obtain ⟨x, xs, hx, outcome⟩ := eval_binary ran
  have noJump : jump "*" x = none := by simp [jump]
  rcases outcome with ⟨absurd, -⟩ | ⟨y, ys, hy, rfl, outcome⟩
  · cases absurd
  rcases outcome with ⟨absurd, -⟩ | ⟨-, data, hdata, rfl⟩
  · cases absurd
  exact ⟨x, xs, y, ys, data, hx, hy, hdata, rfl, rfl⟩

theorem PricingShape.priced (shape : PricingShape node) :
    ∀ first value events, node.eval env first = some (value, events) →
      ∃ leaf, PricedRun env first node value events leaf := by
  induction shape with
  | @conditional ternary cond exp1 exp2 unmarked shape1 shape2 ih1 ih2 =>
    intro first value events ran
    obtain ⟨holds, condEvents, branchEvents, hcond, hbranch, rfl⟩ := eval_conditional ran
    have nothing : PricesNothing (condEvents ++ testedEvents first ternary cond exp1 exp2 holds) :=
      (unmarked_pricesNothing unmarked hcond).append (testedEvents_pricesNothing _ _ _ _ _ _)
    -- the selection follows the branch the condition takes
    have follows : ∃ leaf,
        (GoNode.conditional ternary cond exp1 exp2).selected env first = some leaf ∧
        PricedRun env (branch first cond exp1 exp2 holds).2
          (branch first cond exp1 exp2 holds).1 value branchEvents leaf := by
      cases holds with
      | true =>
        obtain ⟨leaf, priced⟩ := ih1 _ _ _ hbranch
        refine ⟨leaf, ?_, priced⟩
        simpa [selected, hcond, branch] using priced.selected
      | false =>
        obtain ⟨leaf, priced⟩ := ih2 _ _ _ hbranch
        refine ⟨leaf, ?_, priced⟩
        simpa [selected, hcond, branch] using priced.selected
    obtain ⟨leaf, chosen, priced⟩ := follows
    exact ⟨leaf, {
      selected := chosen
      tierOnce := by
        rw [List.countP_append, nothing.countP_tier, priced.tierOnce]
      fixedCalls := by
        rw [List.countP_append, nothing.countP_fixed, priced.fixedCalls, Nat.zero_add]
      product := priced.product }⟩
  | factorRight factor shape ih =>
    intro first value events ran
    obtain ⟨x, xs, y, ys, data, hx, hy, hdata, rfl, rfl⟩ := eval_mul ran
    obtain ⟨leaf, priced⟩ := ih _ _ _ hx
    obtain ⟨nothing, number, hnumber, found⟩ := factor.runs hy
    refine ⟨leaf.times number, priced.times nothing found ?_ (List.Perm.refl _) hdata⟩
    simp [selected, factor.unmarked, priced.selected, hnumber]
  | factorLeft factor shape ih =>
    intro first value events ran
    obtain ⟨x, xs, y, ys, data, hx, hy, hdata, rfl, rfl⟩ := eval_mul ran
    obtain ⟨leaf, priced⟩ := ih _ _ _ hy
    obtain ⟨nothing, number, hnumber, found⟩ := factor.runs hx
    have swapped : env.strict "*" y x = some data := by
      obtain ⟨price, leafEvents, -, rfl⟩ := priced.product
      rw [strict_mul_right env _ found, ← hdata, strict_mul_left env _ found]
    refine ⟨leaf.times number, priced.times nothing found ?_ List.perm_append_comm swapped⟩
    simp [selected, shape.marked, priced.selected, hnumber]
  | leaf unmarked valid =>
    intro first value events ran
    exact ⟨_, leaf_runs unmarked valid ran⟩

end GoNode

omit [GoFloat φ] in
/-- The trace says that the request is the unit, with its price, exactly when
`fixed` was called. -/
theorem recorded_unit (events : List (GoEvent φ)) (trace : TraceResult φ) :
    ((events.foldl record trace).billingUnit = .request ↔
      trace.billingUnit = .request ∨ 0 < events.countP isFixedCall) ∧
    ((events.foldl record trace).fixedPrice.isSome = true ↔
      trace.fixedPrice.isSome = true ∨ 0 < events.countP isFixedCall) := by
  induction events generalizing trace with
  | nil => simp
  | cons event events ih =>
    obtain ⟨unit, price⟩ := ih (trace.record event)
    rw [List.foldl_cons, unit, price]
    cases event with
    | fixed amount => simp [record, isFixedCall]
    | rule index matched =>
      simp only [record]
      split_ifs
      · simp [isFixedCall]
      · simp [isFixedCall]
    | _ => simp [record, isFixedCall]

/-- A run of an accepted tree, and of the program patched from it, calls `tier`
once and `fixed` at most once; its unit is the request, with the price set,
exactly at a leaf `tier(_, fixed(a))`; and its result is the value of the
selected leaf times the multipliers on the way to it. -/
theorem one_pricing_leaf (env : GoEnvironment φ) (node program : GoNode φ)
    (rules : List (RequestRuleTrace φ)) (valid : node.validateFixedPricingTree = true)
    (source : program = node ∨ program = (node.patch []).1) (result : φ) (trace : TraceResult φ)
    (ran : runProgram program rules env = some (result, trace)) :
    ∃ value events leaf price leafEvents, program.eval env 0 = some (value, events) ∧
      events.countP isTierCall = 1 ∧
      events.countP isFixedCall ≤ 1 ∧
      program.selected env 0 = some leaf ∧
      (trace.billingUnit = .request ↔ leaf.isFixed = true) ∧
      (trace.fixedPrice.isSome = true ↔ leaf.isFixed = true) ∧
      leaf.node.eval env leaf.first = some (.data (.float price), leafEvents) ∧
      result = leaf.factors.foldl GoFloat.mul price := by
  have shape : GoNode.PricingShape program := by
    rcases source with rfl | rfl
    · exact GoNode.shape_of_valid valid
    · exact GoNode.shape_patch_of_valid valid []
  obtain ⟨value, events, heval, hresult, rfl⟩ := runProgram_eq_some ran
  obtain ⟨leaf, priced⟩ := shape.priced _ _ _ heval
  obtain ⟨price, leafEvents, hleaf, rfl⟩ := priced.product
  obtain ⟨unit, fixedPrice⟩ := recorded_unit events (.start rules (tracedImageCount program env))
  have counted : 0 < events.countP isFixedCall ↔ leaf.isFixed = true := by
    rw [priced.fixedCalls]
    cases leaf.isFixed with
    | true => simp
    | false => simp
  refine ⟨_, events, leaf, price, leafEvents, heval, priced.tierOnce, ?_,
    priced.selected, ?_, ?_, hleaf, ?_⟩
  · rw [priced.fixedCalls]
    split_ifs
    · exact le_rfl
    · exact Nat.zero_le 1
  · rw [unit, counted]
    simp [TraceResult.start]
  · rw [fixedPrice, counted]
    simp [TraceResult.start]
  · exact (Option.some.inj hresult).symm

end

def tripledImagePrice : GoNode Rat :=
  .binary "*"
    (.binary "*"
      (.call (.identifier "tier") [.string "base", .call (.identifier "fixed") [.integer 2]])
      (.conditional true
        (.binary "==" (.call (.identifier "header") [.string "a"]) (.string "b"))
        (.integer 3) (.integer 1)))
    (.identifier "image_count")

theorem tripledImagePrice_runs :
    runProgram (tripledImagePrice.patch []).1 (tripledImagePrice.patch []).2 headerRequest =
      some (12000000, ⟨some 2, .request, some 2, "base",
        (tripledImagePrice.patch []).2.map fun rule =>
          { rule with matched := true }, 2000000⟩) := by
  have evaluated : (tripledImagePrice.patch []).1.eval headerRequest 0 =
      some (.data (.float 12000000), [.fixed 2, .tier "base" 2000000, .rule 0 true]) := by
    decide +kernel
  have counted : tracedImageCount (tripledImagePrice.patch []).1 headerRequest = some 2 := by
    decide +kernel
  rw [runProgram, counted, if_neg (by decide), evaluated]
  rfl

/-- The program of this price charges three times two fixed prices of two. -/
theorem tripled_price_has_one_leaf :
    ∃ value events leaf price leafEvents,
      (tripledImagePrice.patch []).1.eval headerRequest 0 = some (value, events) ∧
      events.countP isTierCall = 1 ∧
      events.countP isFixedCall ≤ 1 ∧
      (tripledImagePrice.patch []).1.selected headerRequest 0 = some leaf ∧
      (GoBillingUnit.request = .request ↔ leaf.isFixed = true) ∧
      ((some (2 : Rat)).isSome = true ↔ leaf.isFixed = true) ∧
      leaf.node.eval headerRequest leaf.first = some (.data (.float price), leafEvents) ∧
      (12000000 : Rat) = leaf.factors.foldl GoFloat.mul price :=
  one_pricing_leaf headerRequest tripledImagePrice
    (tripledImagePrice.patch []).1 (tripledImagePrice.patch []).2
    (by decide +kernel) (.inr rfl) 12000000 _ tripledImagePrice_runs

end NewApi.Expression
